import Mathlib
import RefCycle.Proofs.Collector.Round
import RefCycle.Proofs.Heap.GroupRelease
import RefCycle.Proofs.Heap.Sustenance
/-!
# What an unchanged count means

A pass compares counts, and not who refers to a candidate. A candidate that lost a
reference from another one and gained one from elsewhere has its old count again; so it
is confirmed although it is in use. Unchanged counts mean what they are meant to as
long as the candidates keep the references that they had when they were captured.

## Main definitions

* `Heap.Isolated` — nobody holds an object, and only objects in a set refer to it.

## Main statements

* `mem_confirmed_iff` — which candidates are confirmed.
* `Ledger.trial_deletion_exact` — what it means that a candidate is confirmed.
* `Ledger.not_isolated_of_confirmed` — a confirmed candidate may be in use.
-/

namespace RefCycle

namespace Snapshot

variable {snapshot : Snapshot} {refCount? : ObjectId → Option Nat} {object : ObjectId}

theorem mem_confirmed :
    object ∈ (snapshot.trialDelete refCount?).confirmed ↔
      ∃ count, (object, count) ∈ snapshot.entries ∧ refCount? object = some count := by
  simp only [trialDelete, List.mem_map, List.mem_filter, unchanged, decide_eq_true_eq]
  constructor
  · rintro ⟨⟨p, count⟩, ⟨mem, same⟩, rfl⟩
    exact ⟨count, mem, same⟩
  · rintro ⟨count, mem, same⟩
    exact ⟨(object, count), ⟨mem, same⟩, rfl⟩

theorem mem_roots : object ∈ snapshot.roots ↔ ∃ count, (object, count) ∈ snapshot.entries := by
  simp [roots]

end Snapshot

namespace Heap

/-- No mutator holds an object, and only objects in a set refer to it. -/
def Isolated (h : Heap) (held : ObjectId → Nat) (S : ObjectId → Prop) (p : ObjectId) : Prop :=
  held p = 0 ∧ ∀ q, p ∈ h.edges q → S q

variable {h k : Heap} {held : ObjectId → Nat} {S : Finset ObjectId} {p : ObjectId}
  {snapshot : Snapshot}

theorem Balanced.refCount?_eq_some_iff {n : Nat} (balanced : h.Balanced held []) :
    h.refCount? p = some n ↔ h.contains p ∧ held p + h.inDegree p = n := by
  constructor
  · intro here
    have law := balanced.counted p n here
    rw [List.count_nil] at law
    exact ⟨contains_of_refCount? here, by omega⟩
  · rintro ⟨live, rfl⟩
    obtain ⟨o, ho⟩ := contains_iff.1 live
    have law := balanced.counted p _ (refCount?_of_get? ho)
    rw [refCount?_of_get? ho, law, List.count_nil, Nat.add_zero]

/-- In a set whose counts are made of references among its members, every member has such
    a reference. -/
theorem SelfContained.sustained (self : h.SelfContained S) (zeros : h.Unreferenced []) :
    h.Sustained (· ∈ S) := by
  refine ⟨fun p mem => contains_of_refCount? (self p mem), fun p mem => ?_⟩
  have counted : h.referencesFrom S p ≠ 0 := zeros.count_ne_zero (self p mem)
  obtain ⟨q, member, refers⟩ := Finset.exists_ne_zero_of_sum_ne_zero counted
  exact ⟨q, member, List.count_pos_iff.1 (Nat.pos_of_ne_zero refers)⟩

theorem Keeps.referencesFrom_le (kept : Keeps h k (· ∈ S)) (p : ObjectId) :
    h.referencesFrom S p ≤ k.referencesFrom S p :=
  Finset.sum_le_sum fun q mem => (kept.edges q mem).count_le p

/-- The counts with which candidates are captured are made of references among them. -/
theorem selfContained_of_candidates [VisitOrder] (balanced : h.Balanced held [])
    (captured : CollectedHeap.candidates h = some snapshot) :
    h.SelfContained snapshot.roots.toFinset := by
  rw [balanced.selfContained_iff, (CollectedHeap.roots_of_candidates captured).1]
  simpa only [List.mem_toFinset] using garbage_enclosed balanced

/-- A candidate is confirmed if its count is the number of references that candidates
    held to it when it was captured. -/
theorem mem_confirmed_iff [VisitOrder] (balanced : h.Balanced held [])
    (captured : CollectedHeap.candidates h = some snapshot) :
    p ∈ (snapshot.trialDelete k.refCount?).confirmed ↔
      p ∈ snapshot.roots ∧ k.refCount? p = some (h.referencesFrom snapshot.roots.toFinset p) := by
  have self := selfContained_of_candidates balanced captured
  have counted : ∀ count, (p, count) ∈ snapshot.entries →
      count = h.referencesFrom snapshot.roots.toFinset p := by
    intro count mem
    have root := List.mem_toFinset.2 (Snapshot.mem_roots.2 ⟨count, mem⟩)
    have here := (CollectedHeap.roots_of_candidates captured).2 _ mem
    exact Option.some.inj (here.symm.trans (self p root))
  rw [Snapshot.mem_confirmed, Snapshot.mem_roots]
  constructor
  · rintro ⟨count, mem, same⟩
    exact ⟨⟨count, mem⟩, counted count mem ▸ same⟩
  · rintro ⟨⟨count, mem⟩, same⟩
    exact ⟨count, mem, (counted count mem).symm ▸ same⟩

namespace Ledger

/-- What it means that a candidate is confirmed.

    Mutators may do anything between a scan and a pass, as long as they release only
    what they hold. A candidate is confirmed exactly if it is live, and what is held of
    it and refers to it are together as many references as candidates held to it at
    the scan. So nobody holds a confirmed candidate and only candidates refer to it
    exactly if candidates hold as many references to it now as they did then; and this is
    so for all of them if no reference was taken out of a candidate in between. -/
theorem trial_deletion_exact [VisitOrder] {start later : Ledger} {calls : List Call}
    (history : start.Disciplined)
    (captured : Snapshot.capture start.heap.refCount? (start.heap.detectCycles.getD []) =
      some snapshot)
    (played : start.play calls = some later) :
    (∀ p, p ∈ (snapshot.trialDelete later.heap.refCount?).confirmed ↔
      p ∈ snapshot.roots ∧ later.heap.contains p ∧
        later.held p + later.heap.inDegree p =
          start.heap.referencesFrom snapshot.roots.toFinset p) ∧
    (∀ p ∈ (snapshot.trialDelete later.heap.refCount?).confirmed,
      later.heap.Isolated later.held (· ∈ snapshot.roots) p ↔
        later.heap.referencesFrom snapshot.roots.toFinset p =
          start.heap.referencesFrom snapshot.roots.toFinset p) ∧
    ((∀ call ∈ calls, call.Spares (· ∈ snapshot.roots)) →
      ∀ p ∈ (snapshot.trialDelete later.heap.refCount?).confirmed,
        later.heap.Isolated later.held (· ∈ snapshot.roots) p) := by
  have sound := history.sound
  have books := (history.play played).sound.balanced
  have confirmed : ∀ p, p ∈ (snapshot.trialDelete later.heap.refCount?).confirmed ↔ _ :=
    fun p => mem_confirmed_iff sound.balanced captured
  have isolated : ∀ p ∈ (snapshot.trialDelete later.heap.refCount?).confirmed,
      later.heap.Isolated later.held (· ∈ snapshot.roots) p ↔
        later.heap.referencesFrom snapshot.roots.toFinset p =
          start.heap.referencesFrom snapshot.roots.toFinset p := by
    intro p mem
    have here := ((confirmed p).1 mem).2
    have law := books.refCount?_eq_referencesFrom_iff (S := snapshot.roots.toFinset)
      (contains_of_refCount? here)
    simp only [List.mem_toFinset] at law
    rw [Isolated, ← law, here, Option.some.injEq, eq_comm]
  refine ⟨fun p => ?_, isolated, fun spares p mem => (isolated p mem).2 ?_⟩
  · rw [confirmed, books.refCount?_eq_some_iff]
  · -- No reference among the candidates was lost, and there is room for no other.
    have sustained := (selfContained_of_candidates sound.balanced captured).sustained
      sound.referenced
    have kept : Keeps start.heap later.heap (· ∈ snapshot.roots.toFinset) :=
      play_keeps sound sustained (by simpa only [List.mem_toFinset] using spares) played
    have more := kept.referencesFrom_le p
    have within := later.heap.referencesFrom_le_inDegree snapshot.roots.toFinset p
    have total := (books.refCount?_eq_some_iff.1 ((confirmed p).1 mem).2).2
    omega

attribute [local instance] VisitOrder.ascending

/-- An orphaned pair is captured, and then one of the two is retained and a new object
    refers to it. The other is confirmed, and nothing but the pair refers to it. -/
theorem trial_deletion_exact_retained :
    ∃ (start later : Ledger) (snapshot : Snapshot), start.Disciplined ∧
      Snapshot.capture start.heap.refCount? (start.heap.detectCycles.getD []) = some snapshot ∧
      start.play [.retain ⟨0⟩, .allocate, .link ⟨2⟩ ⟨0⟩] = some later ∧
      snapshot.trialDelete later.heap.refCount? = ⟨[⟨1⟩], [⟨0⟩]⟩ ∧
      later.heap.Isolated later.held (· ∈ snapshot.roots) ⟨1⟩ := by
  let setup : List Call :=
    [.allocate, .allocate, .link ⟨0⟩ ⟨1⟩, .link ⟨1⟩ ⟨0⟩, .release ⟨0⟩, .release ⟨1⟩]
  have view : ((empty.play setup).bind fun start =>
      (Snapshot.capture start.heap.refCount? (start.heap.detectCycles.getD [])).bind fun snapshot =>
        (start.play [.retain ⟨0⟩, .allocate, .link ⟨2⟩ ⟨0⟩]).map fun later =>
          (snapshot.roots, snapshot.trialDelete later.heap.refCount?)) =
      some ([⟨0⟩, ⟨1⟩], ⟨[⟨1⟩], [⟨0⟩]⟩) := by cbv
  obtain ⟨start, built, view⟩ := Option.bind_eq_some_iff.1 view
  obtain ⟨snapshot, captured, view⟩ := Option.bind_eq_some_iff.1 view
  obtain ⟨later, played, eq⟩ := Option.map_eq_some_iff.1 view
  obtain ⟨roots, trial⟩ : _ ∧ _ := by simpa only [Prod.mk.injEq] using eq
  have history := Disciplined.empty.play built
  obtain ⟨-, -, isolated⟩ := trial_deletion_exact history captured played
  refine ⟨start, later, snapshot, history, captured, played, trial, isolated ?_ _ ?_⟩
  · simp [Call.Spares]
  · rw [trial]
    exact List.mem_cons_self

/-- Confirmed candidates may be in use: of an orphaned pair that was captured, one object
    is retained, and then the other lets go of it. Its count is what it was. -/
theorem not_isolated_of_confirmed :
    ¬∀ (start later : Ledger) (snapshot : Snapshot) (calls : List Call), start.Disciplined →
      Snapshot.capture start.heap.refCount? (start.heap.detectCycles.getD []) = some snapshot →
      start.play calls = some later →
      ∀ p ∈ (snapshot.trialDelete later.heap.refCount?).confirmed,
        later.heap.Isolated later.held (· ∈ snapshot.roots) p := by
  intro law
  let setup : List Call :=
    [.allocate, .allocate, .link ⟨0⟩ ⟨1⟩, .link ⟨1⟩ ⟨0⟩, .release ⟨0⟩, .release ⟨1⟩]
  have view : ((empty.play setup).bind fun start =>
      (Snapshot.capture start.heap.refCount? (start.heap.detectCycles.getD [])).bind fun snapshot =>
        (start.play [.retain ⟨0⟩, .unlink ⟨1⟩ ⟨0⟩]).map fun later =>
          ((snapshot.trialDelete later.heap.refCount?).confirmed, later.held ⟨0⟩)) =
      some ([⟨0⟩, ⟨1⟩], 1) := by cbv
  obtain ⟨start, built, view⟩ := Option.bind_eq_some_iff.1 view
  obtain ⟨snapshot, captured, view⟩ := Option.bind_eq_some_iff.1 view
  obtain ⟨later, played, eq⟩ := Option.map_eq_some_iff.1 view
  obtain ⟨confirmed, holds⟩ : _ ∧ _ := by simpa only [Prod.mk.injEq] using eq
  have isolated := law start later snapshot _ (Disciplined.empty.play built) captured played ⟨0⟩
    (confirmed ▸ List.mem_cons_self)
  exact absurd (holds.symm.trans isolated.1) Nat.one_ne_zero

end Ledger

end Heap

end RefCycle
