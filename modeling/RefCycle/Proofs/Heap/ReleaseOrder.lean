import Mathlib
import RefCycle.Proofs.Heap.Dropping
/-!
# Releases in any order

Mutators let go of references one after another. Which call frees an object depends on the
order; but once all are done, an object is gone exactly if nobody holds it any more and
everything that referred to it is gone. That is a least fixed point which does not mention
the calls at all, so neither the heap that is left nor the number of freed objects depends
on their order.

The proof does not exchange neighbouring calls, because what a single call frees does
change. It keeps along the calls that what is gone is the least such set.

## Main definitions

* `Heap.Swallows` — a set has every object that nobody holds and only its members refer to.

## Main statements

* `Removes.swallows`, `discard_swallowed` — freeing takes no less and no more.
* `eq_of_balanced` — a heap is determined by its references and by what is held.
* `releases_swallow` — what is left by a number of releases.
* `Ledger.release_order_irrelevant` — the order of releases does not matter.
-/

namespace RefCycle.Heap

variable {h k l : Heap} {held : ObjectId → Nat} {p object : ObjectId} {S : Finset ObjectId}
  {freed : List ObjectId} {freeing : Freeing}

/-- A set has every live object that nobody holds and to which only its members refer. -/
def Swallows (h : Heap) (held : ObjectId → Nat) (S : Finset ObjectId) : Prop :=
  ∀ p, h.contains p → held p = 0 → (∀ q, p ∈ h.edges q → q ∈ S) → p ∈ S

/-- If the books are in order, to swallow is to absorb. -/
theorem Balanced.absorbing (balanced : h.Balanced held []) (swallows : h.Swallows held S) :
    h.Absorbing S := by
  intro p all
  have live := contains_of_refCount? all
  obtain ⟨unheld, inside⟩ := (balanced.refCount?_eq_referencesFrom_iff live).1 all
  exact swallows p live unheld inside

/-- What freeing leaves is held or has something left that refers to it. -/
theorem Removes.swallows (removes : Removes h k freed) (less : Shrinks h k)
    (balanced : k.Balanced held []) (zeros : k.Unreferenced []) :
    h.Swallows held freed.toFinset := by
  intro p live unheld inside
  by_contra survivor
  rw [List.mem_toFinset] at survivor
  have left := (removes.remains_iff p).2 ⟨live, survivor⟩
  obtain holds | ⟨q, alive, refers⟩ := (less.survives_iff balanced zeros).1 left
  · exact Nat.ne_of_gt holds unheld
  · exact ((removes.remains_iff q).1 alive).2 (List.mem_toFinset.1 (inside q refers))

/-- A set that swallows what nobody holds in the end has everything that is freed on the
    way there. -/
theorem discard_swallowed {final : ObjectId → Nat} (balanced : h.Balanced held [object])
    (zeros : h.Unreferenced []) (live : h.contains object) (fewer : ∀ p, final p ≤ held p)
    (swallows : h.Swallows final S) (run : h.discard [object] = .ok freeing) :
    ∀ p ∈ freeing.freed, p ∈ S := by
  intro p mem
  obtain ⟨count, here⟩ := balanced.exists_count live
  -- The books of the heap where the reference is dropped say what is held afterwards.
  have books := balanced.lowered here
  have absorbing : (h.lowered object).Absorbing S := by
    refine books.absorbing fun q alive unheld inside => ?_
    simp only [contains_lowered, edges_lowered] at alive inside
    have := fewer q
    exact swallows q alive (by omega) inside
  have removes := discard_removes run
  have within := discard_within absorbing books (shrinks_lowered h object) balanced zeros
    (fun q alive gone => absurd (contains_lowered ▸ alive) gone) run
  refine within p ?_ fun alive => ((removes.remains_iff p).1 alive).2 mem
  rw [contains_lowered]
  exact removes.live p mem

/-- What swallows in a heap also swallows in what is left of it, if it has what is gone. -/
theorem Swallows.shrinks (swallows : h.Swallows held S) (less : Shrinks h k)
    (gone : ∀ p, h.contains p → ¬k.contains p → p ∈ S) : k.Swallows held S := by
  intro p live unheld inside
  refine swallows p (less.contains p live) unheld fun q refers => ?_
  by_cases alive : k.contains q
  · rw [← less.edges q alive] at refers
    exact inside q refers
  · exact gone q (contains_of_mem_edges refers) alive

/-- Books in order leave no choice for the counts. -/
theorem eq_of_balanced (size : k.slots.size = l.slots.size)
    (live : ∀ p, k.contains p ↔ l.contains p) (edges : ∀ p, k.edges p = l.edges p)
    (first : k.Balanced held []) (second : l.Balanced held []) : k = l := by
  refine ext_get? size fun p => ?_
  by_cases here : k.contains p
  · obtain ⟨⟨count, references⟩, ho⟩ := contains_iff.1 here
    obtain ⟨⟨count', references'⟩, ho'⟩ := contains_iff.1 ((live p).1 here)
    have law := first.counted p _ (refCount?_of_get? ho)
    have law' := second.counted p _ (refCount?_of_get? ho')
    have same := edges p
    rw [inDegree_congr size edges] at law
    rw [edges_of_get? ho, edges_of_get? ho', Array.toList_inj] at same
    rw [ho, ho', Option.some.injEq, Object.mk.injEq]
    exact ⟨law.trans law'.symm, same⟩
  · have gone := mt (live p).2 here
    simp only [contains, Bool.not_eq_true, Option.isSome_eq_false_iff, Option.isNone_iff_eq_none]
      at here gone
    rw [here, gone]

/-! ### A number of releases -/

/-- What is left by a number of releases, when so much is held in the end: all succeed, and
    what is gone is the least set that swallows what is not held any more. -/
structure Releases [VisitOrder] (h : Heap) (objects : List ObjectId) (final : ObjectId → Nat)
    (k : Heap) (freed : List ObjectId) : Prop where
  answers : ∃ counts : List Nat, h.performAll (objects.map .release) =
    .ok (counts.map .freed, k) ∧ counts.sum = freed.length
  removes : Removes h k freed
  less : Shrinks h k
  balanced : k.Balanced final []
  zeros : k.Unreferenced []
  least : IsLeast {S | h.Swallows final S} freed.toFinset

/-- Releases that mutators may make are carried out, whatever each of them frees. -/
theorem releases_swallow [VisitOrder] {final : ObjectId → Nat} {objects : List ObjectId}
    (balanced : h.Balanced held []) (zeros : h.Unreferenced [])
    (covered : ∀ p, held p = final p + objects.count p) :
    ∃ k freed, h.Releases objects final k freed := by
  induction objects generalizing h held with
  | nil =>
    obtain rfl : held = final := funext covered
    have removes : Removes h h [] := removes_nil fun _ => rfl
    exact ⟨h, [], ⟨[], rfl, rfl⟩, removes, .refl h, balanced,
      zeros, removes.swallows (.refl h) balanced zeros, fun S _ p mem => by simp at mem⟩
  | cons object objects ih =>
    have spent : ∀ p, held p = final p + objects.count p + if p = object then 1 else 0 := by
      intro p
      rw [covered, List.count_cons, Nat.add_assoc]
      simp only [beq_iff_eq, eq_comm (a := object)]
    have holds : 0 < held object := by
      rw [spent, if_pos rfl]
      exact Nat.succ_pos _
    have covered' : ∀ p, (if p = object then held p - 1 else held p) =
        final p + objects.count p := by
      intro p
      have law := spent p
      split_ifs at law ⊢ <;> omega
    have due := balanced.letGo holds
    obtain ⟨freeing, done, balanced', zeros'⟩ := release_balanced balanced zeros holds
    obtain ⟨live, run⟩ := release_eq_ok done
    obtain ⟨k, freed, ⟨counts, made, sum⟩, removes, less, books, counted, least⟩ :=
      ih balanced' zeros' covered'
    have first := discard_removes run
    have all := first.append removes
    have less' := (discard_shrinks run).trans less
    refine ⟨k, freeing.freed ++ freed, ⟨freeing.freed.length :: counts, ?_, ?_⟩, all, less', books,
      counted, all.swallows less' books counted, fun S swallows p mem => ?_⟩
    · simp only [List.map_cons, performAll, perform, done, Effect.ofFreeing, made]
    · rw [List.sum_cons, sum, List.length_append]
    · -- The first call frees members only, so the others start with all of the rest.
      have within := discard_swallowed due zeros live (fun q => ?_) swallows run
      · rcases List.mem_append.1 (List.mem_toFinset.1 mem) with mem | mem
        · exact within p mem
        · refine least.2 (swallows.shrinks (discard_shrinks run) fun q alive gone => ?_)
            (List.mem_toFinset.2 mem)
          exact within q (by_contra fun kept => gone ((first.remains_iff q).2 ⟨alive, kept⟩))
      · rw [covered']
        exact Nat.le_add_right ..

/-- The same releases in another order leave the same heap and free as many objects. -/
theorem Releases.unique [VisitOrder] {objects order : List ObjectId} {final : ObjectId → Nat}
    {k' : Heap} {freed' : List ObjectId} (releases : h.Releases objects final k freed)
    (others : h.Releases order final k' freed') : k' = k ∧ freed'.length = freed.length := by
  have same := others.least.unique releases.least
  have live : ∀ p, k'.contains p ↔ k.contains p := fun p => by
    rw [others.removes.remains_iff, releases.removes.remains_iff, ← List.mem_toFinset, same,
      List.mem_toFinset]
  constructor
  · refine eq_of_balanced (others.less.size.trans releases.less.size.symm) live (fun p => ?_)
      others.balanced releases.balanced
    by_cases alive : k.contains p
    · rw [releases.less.edges p alive, others.less.edges p ((live p).2 alive)]
    · rw [edges_of_not_contains alive, edges_of_not_contains (mt (live p).1 alive)]
  · rw [← List.toFinset_card_of_nodup others.removes.nodup, same,
      List.toFinset_card_of_nodup releases.removes.nodup]

namespace Ledger

variable {ledger : Ledger}

/-- The order of releases does not matter.

    If no object is released more often than mutators hold it, then every order of the
    releases is carried out without a refusal or a fault, and ends in the same heap. The
    answers of the calls add up to the number of objects that are gone. -/
theorem release_order_irrelevant [VisitOrder] (history : ledger.Disciplined)
    (objects : List ObjectId) (covered : ∀ p, objects.count p ≤ ledger.held p) :
    ∃ (k : Heap) (total : Nat), k.len + total = ledger.heap.len ∧
      ∀ order : List ObjectId, order.Perm objects →
        ∃ counts : List Nat, ledger.heap.performAll (order.map .release) =
          .ok (counts.map .freed, k) ∧ counts.sum = total := by
  obtain ⟨balanced, zeros, -, -⟩ := history.sound
  have split : ∀ p, ledger.held p = ledger.held p - objects.count p + objects.count p :=
    fun p => (Nat.sub_add_cancel (covered p)).symm
  obtain ⟨k, freed, releases⟩ := releases_swallow balanced zeros split
  refine ⟨k, freed.length, releases.removes.len, fun order perm => ?_⟩
  obtain ⟨k', freed', others⟩ := releases_swallow balanced zeros fun p =>
    (split p).trans (congrArg _ (perm.count_eq p).symm)
  obtain ⟨rfl, length⟩ := releases.unique others
  obtain ⟨counts, made, sum⟩ := others.answers
  exact ⟨counts, made, sum.trans length⟩

attribute [local instance] VisitOrder.ascending

/-- Of two objects that refer to a third, one is held twice, and it also refers to a cycle.
    Two orders free one object at different calls; both free three in all, and leave the
    same cycle behind. -/
theorem release_order_irrelevant_shared :
    ∃ (ledger : Ledger) (k : Heap), ledger.Disciplined ∧
      ledger.heap = ⟨#[some ⟨2, #[⟨2⟩, ⟨3⟩]⟩, some ⟨1, #[⟨2⟩]⟩, some ⟨2, #[]⟩,
        some ⟨2, #[⟨3⟩]⟩]⟩ ∧
      ledger.heap.performAll [.release ⟨0⟩, .release ⟨0⟩, .release ⟨1⟩] =
        .ok ([.freed 0, .freed 1, .freed 2], k) ∧
      ledger.heap.performAll [.release ⟨1⟩, .release ⟨0⟩, .release ⟨0⟩] =
        .ok ([.freed 1, .freed 0, .freed 2], k) ∧ k.len + 3 = ledger.heap.len := by
  let calls : List Call :=
    [.allocate, .allocate, .allocate, .allocate, .retain ⟨0⟩, .link ⟨0⟩ ⟨2⟩, .link ⟨0⟩ ⟨3⟩,
      .link ⟨1⟩ ⟨2⟩, .link ⟨3⟩ ⟨3⟩, .release ⟨2⟩, .release ⟨3⟩]
  let objects : List ObjectId := [⟨0⟩, ⟨0⟩, ⟨1⟩]
  let graph : Heap :=
    ⟨#[some ⟨2, #[⟨2⟩, ⟨3⟩]⟩, some ⟨1, #[⟨2⟩]⟩, some ⟨2, #[]⟩, some ⟨2, #[⟨3⟩]⟩]⟩
  have view : (empty.play calls).map (fun ledger =>
      (ledger.heap, ledger.held ⟨0⟩, ledger.held ⟨1⟩)) = some (graph, 2, 1) := by cbv
  have answers : (graph.performAll (objects.map .release)).map Prod.fst =
      .ok [.freed 0, .freed 1, .freed 2] := by cbv
  have others : (graph.performAll ([⟨1⟩, ⟨0⟩, ⟨0⟩].map .release)).map Prod.fst =
      .ok [.freed 1, .freed 0, .freed 2] := by cbv
  obtain ⟨ledger, played, eq⟩ := Option.map_eq_some_iff.1 view
  obtain ⟨heap, twice, once⟩ : _ ∧ _ ∧ _ := by simpa only [Prod.mk.injEq] using eq
  have history := Disciplined.empty.play played
  obtain ⟨k, total, len, all⟩ := release_order_irrelevant history objects fun p => by
    by_cases zero : p = ⟨0⟩
    · rw [zero, twice]
      decide
    · by_cases one : p = ⟨1⟩
      · rw [one, once]
        decide
      · have absent : p ∉ objects := by simp [objects, zero, one]
        rw [List.count_eq_zero_of_not_mem absent]
        exact Nat.zero_le _
  rw [← heap] at answers others
  obtain ⟨counts, made, sum⟩ := all objects (.refl _)
  obtain ⟨counts', made', -⟩ := all [⟨1⟩, ⟨0⟩, ⟨0⟩] (by decide)
  rw [made] at answers
  rw [made'] at others
  have freed : counts.map Response.freed = [0, 1, 2].map Response.freed := Except.ok.inj answers
  obtain rfl := List.map_injective_iff.2 (fun _ _ => Response.freed.inj) freed
  obtain rfl : 3 = total := sum
  exact ⟨ledger, k, history, heap, made, Except.ok.inj others ▸ made', len⟩

end Ledger

end RefCycle.Heap
