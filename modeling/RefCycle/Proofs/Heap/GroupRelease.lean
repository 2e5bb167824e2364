import Mathlib
import RefCycle.Proofs.Heap.Accounting
import RefCycle.Proofs.Heap.Isolation
import RefCycle.Proofs.Heap.Shedding
/-!
# Releasing a group

A group release takes the greatest part of the group that only holds itself, and
with it what nothing else keeps alive. Both are fixed points: of the sets within
the group whose counts are made of references among their members the greatest,
and of the absorbing sets around it the least. Neither mentions how members are
searched or in which order they are removed.

## Main definitions

* `Heap.SelfContained` — the counts of a set are made of references among its members.

## Main statements

* `Balanced.selfContained_iff` — with books in order, this means that the set is enclosed.
* `isGreatest_members_garbage` — the search finds the greatest self-contained part.
* `Ledger.group_release_exact` — what a group release does.
-/

namespace RefCycle.Heap

variable {h : Heap} {held : ObjectId → Nat} {p : ObjectId} {group : List ObjectId}
  {S : Finset ObjectId}

/-- The count of each member of a set is the number of references to it that the
    members hold. -/
def SelfContained (h : Heap) (S : Finset ObjectId) : Prop :=
  ∀ p ∈ S, h.refCount? p = some (h.referencesFrom S p)

theorem Balanced.selfContained_iff (balanced : h.Balanced held []) :
    h.SelfContained S ↔ h.Enclosed held (· ∈ S) := by
  constructor
  · intro self
    have live : ∀ p ∈ S, h.contains p := fun p mem => contains_of_refCount? (self p mem)
    have alone p (mem : p ∈ S) :=
      (balanced.refCount?_eq_referencesFrom_iff (live p mem)).1 (self p mem)
    exact ⟨live, fun p mem => (alone p mem).1, fun p q mem refers => (alone p mem).2 q refers⟩
  · intro enclosed p mem
    refine (balanced.refCount?_eq_referencesFrom_iff (enclosed.live p mem)).2 ?_
    exact ⟨enclosed.unheld p mem, fun q refers => enclosed.sealed p q mem refers⟩

/-- The garbage among the members of a group is its greatest self-contained part. -/
theorem isGreatest_members_garbage (balanced : h.Balanced held []) (group : List ObjectId) :
    IsGreatest {S : Finset ObjectId | (∀ p ∈ S, p ∈ group ∧ h.contains p) ∧ h.SelfContained S}
      (h.members group).garbage.toFinset := by
  constructor
  · refine ⟨fun p mem => ?_, balanced.selfContained_iff.2 ?_⟩
    · exact contains_members.1 (mem_garbage_iff.1 (List.mem_toFinset.1 mem)).1
    · simpa only [List.mem_toFinset] using members_garbage_enclosed balanced group
  · rintro S ⟨within, self⟩ p mem
    have enclosed := balanced.selfContained_iff.1 self
    exact List.mem_toFinset.2
      (enclosed.mem_members_garbage balanced (fun q inside => (within q inside).1) mem)

/-- The members of a group do not depend on the order or number of its entries. -/
theorem members_congr {other : List ObjectId} (same : ∀ p, p ∈ other ↔ p ∈ group) :
    h.members other = h.members group := by
  refine ext_get? (by rw [size_slots_members, size_slots_members]) fun p => ?_
  rw [get?_members, get?_members, if_congr (same p) rfl rfl]

theorem releaseGroup_congr [VisitOrder] {other : List ObjectId}
    (same : ∀ p, p ∈ other ↔ p ∈ group) : h.releaseGroup other = h.releaseGroup group := by
  rw [releaseGroup, releaseGroup, members_congr same]

theorem perform_releaseGroup {order : VisitOrder} {release : GroupRelease}
    (run : h.releaseGroup group = .ok release) :
    h.perform (.releaseGroup group) =
      .ok ⟨.freed release.reclaimed, release.heap, release.records⟩ := by
  simp only [perform, Reclaimable.releaseGroup, run]

theorem perform_releaseGroup_congr [VisitOrder] {other : List ObjectId}
    (same : ∀ p, p ∈ other ↔ p ∈ group) :
    h.perform (.releaseGroup other) = h.perform (.releaseGroup group) := by
  simp only [perform, Reclaimable.releaseGroup, releaseGroup_congr same]

/-- Releasing a group takes the least absorbing set around its self-contained part. -/
theorem releaseGroup_sheds {order : VisitOrder} {release : GroupRelease}
    (balanced : h.Balanced held []) (zeros : h.Unreferenced [])
    (run : h.releaseGroup group = .ok release) :
    ∃ F : Finset ObjectId,
      IsLeast {S | (h.members group).garbage.toFinset ⊆ S ∧ h.Absorbing S} F ∧
      Sheds h release.heap F ∧ F.card = release.reclaimed := by
  obtain ⟨cyclic, freeing, done, heap, freed⟩ := releaseGroup_eq_ok run
  obtain ⟨freeing', F, run', least, sheds, card⟩ :=
    eraseAll_sheds balanced zeros (cyclic_nodup run) (cyclic_enclosed balanced run)
  obtain rfl := Except.ok.inj (run'.symm.trans done)
  rw [cyclic, List.toFinset_eq_of_perm _ _ (VisitOrder.visit_perm _)] at least
  exact ⟨F, least, heap ▸ sheds, by rw [card, GroupRelease.reclaimed, freed]⟩

namespace Ledger

variable {ledger : Ledger}

/-- What a group release does.

    Of the sets of live objects in the group whose counts are made of references
    among the members, there is a greatest one; and of the sets around it which have
    every object that only the members refer to, a least one. The latter is freed,
    and its size is answered. Nothing depends on more of the group than which objects
    it names, nor on the order in which the former is erased; and what can be reached
    from a held object is not freed. -/
theorem group_release_exact [VisitOrder] (history : ledger.Disciplined) (group : List ObjectId) :
    ∃ C F : Finset ObjectId,
      IsGreatest {S : Finset ObjectId |
        (∀ p ∈ S, p ∈ group ∧ ledger.heap.contains p) ∧ ledger.heap.SelfContained S} C ∧
      IsLeast {S : Finset ObjectId | C ⊆ S ∧ ledger.heap.Absorbing S} F ∧
      ∃ effect, ledger.heap.perform (.releaseGroup group) = .ok effect ∧
        effect.response = .freed F.card ∧ ledger.heap.Sheds effect.heap F ∧
        (C = ∅ → effect.response = .freed 0 ∧ effect.heap = ledger.heap) ∧
        (∀ other : List ObjectId, (∀ p, p ∈ other ↔ p ∈ group) →
          ledger.heap.perform (.releaseGroup other) = .ok effect) ∧
        (∀ order : List ObjectId, order.Perm C.toList →
          ∃ freeing, (order.foldl erase ledger.heap).discard (order.flatMap ledger.heap.edges) =
            .ok freeing ∧ freeing.heap = effect.heap ∧
              order.length + freeing.freed.length = F.card) ∧
        ∀ p, ledger.heap.Reachable (fun q => 0 < ledger.held q) p → p ∉ F := by
  obtain ⟨balanced, zeros, -, -⟩ := history.sound
  have greatest := isGreatest_members_garbage balanced group
  obtain ⟨release, run, balanced', zeros'⟩ := releaseGroup_balanced balanced zeros group
  obtain ⟨F, least, sheds, card⟩ := releaseGroup_sheds balanced zeros run
  have performed := perform_releaseGroup run
  refine ⟨_, F, greatest, least, _, performed, card ▸ rfl, sheds, ?_, ?_, ?_, ?_⟩
  · intro nothing
    -- The empty set is absorbing, as every object has a reference from somewhere.
    have absorbing : ledger.heap.Absorbing ∅ := fun p all =>
      absurd ((zeros.mem_iff p).2 all) List.not_mem_nil
    have empty : F = ∅ := Finset.subset_empty.1 (least.2 ⟨nothing.subset, absorbing⟩)
    have same : ledger.heap.Sheds ledger.heap ∅ :=
      ⟨rfl, by simp, by simp, fun _ _ => rfl, by simp [referencesFrom]⟩
    subst empty
    exact ⟨card ▸ rfl, sheds.eq same⟩
  · exact fun other same => (perform_releaseGroup_congr same).trans performed
  · intro order perm
    have nodup := perm.symm.nodup (Finset.nodup_toList _)
    have members : ∀ p, p ∈ order ↔ p ∈ (ledger.heap.members group).garbage := fun p => by
      rw [perm.mem_iff, Finset.mem_toList, List.mem_toFinset]
    have enclosed : ledger.heap.Enclosed ledger.held (· ∈ order) := by
      simpa only [members] using members_garbage_enclosed balanced group
    obtain ⟨freeing, F', done, least', sheds', card'⟩ :=
      eraseAll_sheds balanced zeros nodup enclosed
    -- The same set is erased, so the same absorbing set around it goes.
    rw [List.toFinset_eq_of_perm _ _ perm, Finset.toList_toFinset] at least'
    obtain rfl := least.unique least'
    exact ⟨freeing, done, sheds'.eq sheds, card'.symm⟩
  · intro p reach mem
    have survives := (reach.survives (releaseGroup_shrinks run) balanced').1
    exact ((sheds.remains_iff p).1 survives).2 mem

attribute [local instance] VisitOrder.ascending

/-- Of an orphaned pair, one object also refers to an object that hangs off it and to
    one that is held. A group that names the pair, the held object, a freed one and
    one that never was is released: three objects go, and the held one stays. -/
theorem group_release_exact_orphaned_pair :
    ∃ (ledger : Ledger) (C F : Finset ObjectId), ledger.Disciplined ∧
      ledger.heap = ⟨#[some ⟨1, #[⟨1⟩]⟩, some ⟨1, #[⟨0⟩, ⟨2⟩, ⟨3⟩]⟩, some ⟨1, #[]⟩,
        some ⟨2, #[]⟩, none]⟩ ∧
      {⟨0⟩, ⟨1⟩} ⊆ C ∧ ⟨2⟩ ∉ C ∧ F.card = 3 ∧ ⟨3⟩ ∉ F ∧
      ∃ effect, ledger.heap.perform (.releaseGroup [⟨3⟩, ⟨1⟩, ⟨7⟩, ⟨0⟩, ⟨4⟩, ⟨1⟩]) = .ok effect ∧
        ledger.heap.Sheds effect.heap F := by
  let calls : List Call :=
    [.allocate, .allocate, .allocate, .allocate, .allocate, .link ⟨0⟩ ⟨1⟩, .link ⟨1⟩ ⟨0⟩,
      .link ⟨1⟩ ⟨2⟩, .link ⟨1⟩ ⟨3⟩, .release ⟨0⟩, .release ⟨1⟩, .release ⟨2⟩, .release ⟨4⟩]
  let group : List ObjectId := [⟨3⟩, ⟨1⟩, ⟨7⟩, ⟨0⟩, ⟨4⟩, ⟨1⟩]
  let graph : Heap := ⟨#[some ⟨1, #[⟨1⟩]⟩, some ⟨1, #[⟨0⟩, ⟨2⟩, ⟨3⟩]⟩, some ⟨1, #[]⟩,
    some ⟨2, #[]⟩, none]⟩
  have view : (empty.play calls).map (fun ledger => (ledger.heap, ledger.held ⟨3⟩,
      (ledger.heap.perform (.releaseGroup group)).map Effect.response)) =
      some (graph, 1, .ok (.freed 3)) := by cbv
  obtain ⟨ledger, played, eq⟩ := Option.map_eq_some_iff.1 view
  obtain ⟨heap, holds, response⟩ : _ ∧ _ ∧ _ := by simpa only [Prod.mk.injEq] using eq
  obtain ⟨C, F, greatest, least, effect, performed, size, sheds, -, -, -, kept⟩ :=
    group_release_exact (Disciplined.empty.play played) group
  refine ⟨ledger, C, F, Disciplined.empty.play played, heap, greatest.2 ?_, fun mem => ?_, ?_,
    kept ⟨3⟩ (.root ?_ (holds ▸ Nat.one_pos)), effect, performed, sheds⟩
  · rw [heap]
    exact ⟨by decide, by unfold SelfContained; decide⟩
  · exact absurd (greatest.1.1 ⟨2⟩ mem).1 (by decide)
  · rw [performed] at response
    exact Response.freed.inj (size.symm.trans (Except.ok.inj response))
  · rw [heap]
    rfl

end Ledger

end RefCycle.Heap
