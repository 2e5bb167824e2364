import Mathlib
import RefCycle.Heap.Call
import RefCycle.Proofs.Heap.Search
/-!
# The detector is exact

Garbage is exactly what cannot be reached from an object that is held from
outside. As the detector lists it in ascending order, there is only one answer,
in whatever order objects are visited on the way.

## Main definitions

* `ObjectId.Ascending` — a list of objects is in strictly ascending order.
* `Heap.residual` — what is left of a count when references are taken off one by one.
* `Heap.garbageBy` — the search for garbage, with the orders of its visits left open.

## Main statements

* `garbage_congr` — garbage depends only on the live objects.
* `garbageBy_eq_garbage` — the orders of the visits do not matter.
* `detection_exact` — what the detector answers.
-/

namespace RefCycle

namespace ObjectId

variable {objects listed : List ObjectId}

/-- A list of objects is in strictly ascending order of raw values. -/
def Ascending (objects : List ObjectId) : Prop :=
  objects.Pairwise fun a b => a.raw < b.raw

theorem Ascending.nodup (ascending : Ascending objects) : objects.Nodup := by
  refine ascending.imp fun {a b} lt eq => ?_
  exact Nat.ne_of_lt lt (congrArg raw eq)

/-- There is only one way to list given objects in ascending order. -/
theorem Ascending.eq_of_mem_iff (first : Ascending objects) (second : Ascending listed)
    (same : ∀ p, p ∈ objects ↔ p ∈ listed) : objects = listed := by
  have perm : objects.Perm listed := (List.perm_ext_iff_of_nodup first.nodup second.nodup).2 same
  exact perm.eq_of_pairwise (fun _ _ _ _ lt gt => absurd lt (Nat.lt_asymm gt)) first second

/-- Sorting brings given objects into the one ascending order that they have. -/
theorem sort_eq_of_ascending (ascending : Ascending objects) (perm : listed.Perm objects) :
    sort listed = objects := by
  have sorted : (sort listed).Pairwise fun a b => a.raw ≤ b.raw := by
    refine (List.pairwise_mergeSort ?_ ?_ listed).imp fun {a b} le => ?_
    · intro a b c ab bc
      simp only [decide_eq_true_eq] at ab bc ⊢
      exact ab.trans bc
    · intro a b
      simpa using Nat.le_total a.index b.index
    · exact Nat.succ_le_succ (of_decide_eq_true le)
  refine ((List.mergeSort_perm listed _).trans perm).eq_of_pairwise ?_ sorted
    (ascending.imp Nat.le_of_lt)
  exact fun a b _ _ le ge => raw_inj.1 (Nat.le_antisymm le ge)

end ObjectId

namespace Heap

variable {h k : Heap} {p : ObjectId} {order : List ObjectId}

/-! ### There is one answer -/

theorem ascending_ids (h : Heap) : ObjectId.Ascending h.ids := by
  refine List.Pairwise.filter _ (List.pairwise_map.2 ?_)
  exact List.pairwise_lt_range.imp Nat.succ_lt_succ

theorem ascending_garbage (h : Heap) : ObjectId.Ascending h.garbage :=
  List.Pairwise.filter _ (ascending_ids h)

theorem contains_congr (same : ∀ p, k.get? p = h.get? p) (p : ObjectId) :
    k.contains p = h.contains p := by
  rw [contains, contains, same]

/-- Heaps with the same live objects have the same lists of them. -/
theorem ids_congr (same : ∀ p, k.get? p = h.get? p) : k.ids = h.ids :=
  (ascending_ids k).eq_of_mem_iff (ascending_ids h) fun p => by
    rw [mem_ids, mem_ids, contains_congr same]

theorem edges_congr (same : ∀ p, k.get? p = h.get? p) : k.edges = h.edges := by
  funext p
  rw [edges, edges, same]

theorem Reachable.congr {roots : ObjectId → Prop} (same : ∀ p, k.get? p = h.get? p)
    (reach : h.Reachable roots p) : k.Reachable roots p := by
  induction reach with
  | root live isRoot => exact .root (contains_congr same _ ▸ live) isRoot
  | edge _ refers live ih =>
    exact .edge ih (edges_congr same ▸ refers) (contains_congr same _ ▸ live)

/-- What is lost depends only on the live objects. -/
theorem lost_congr (same : ∀ p, k.get? p = h.get? p) : k.Lost p ↔ h.Lost p := by
  have anchored : k.Anchored = h.Anchored := by
    funext q
    simp only [Anchored, refCount?, inDegree, same, ids_congr same, edges_congr same]
  have reach : k.Reachable h.Anchored p ↔ h.Reachable h.Anchored p :=
    ⟨.congr fun q => (same q).symm, .congr same⟩
  rw [Lost, Lost, anchored, reach, contains_congr same]

theorem garbage_congr (same : ∀ p, k.get? p = h.get? p) : k.garbage = h.garbage :=
  (ascending_garbage k).eq_of_mem_iff (ascending_garbage h) fun p => by
    rw [mem_garbage_iff_lost, mem_garbage_iff_lost, lost_congr same]

theorem detectCycles_eq_some_iff {objects : List ObjectId} :
    h.detectCycles = some objects ↔ objects ≠ [] ∧ h.garbage = objects := by
  rw [detectCycles]
  split
  · rename_i clean
    simp [clean, eq_comm]
  · rename_i object objects' littered
    rw [littered, Option.some.injEq]
    exact ⟨fun eq => ⟨eq ▸ List.cons_ne_nil _ _, eq⟩, fun eq => eq.2⟩

theorem detectCycles_eq_none_iff : h.detectCycles = none ↔ h.garbage = [] := by
  rw [detectCycles]
  split <;> simp [*]

/-! ### Other orders -/

/-- What is left of the count of an object when the references that objects hold
    are taken off one by one, object after object. Nothing is left of a count of
    zero, however many references there are. -/
def residual (h : Heap) (order : List ObjectId) (p : ObjectId) : Nat :=
  (order.flatMap h.edges).foldl (fun left target => if target = p then left - 1 else left)
    ((h.refCount? p).getD 0)

/-- The search for garbage when objects are counted in one order, searched from in
    another and listed in a third. -/
def garbageBy (h : Heap) (counting starting listing : List ObjectId) : List ObjectId :=
  let held := starting.filter (0 < h.residual counting ·)
  let found := h.spread (.empty h.slots.size) held
  ObjectId.sort (listing.filter (· ∉ found))

/-- Taking references off one by one gives the truncated difference. -/
theorem foldl_pred (targets : List ObjectId) (n : Nat) :
    targets.foldl (fun left target => if target = p then left - 1 else left) n =
      n - targets.count p := by
  induction targets generalizing n with
  | nil => rfl
  | cons target targets ih =>
    rw [List.foldl_cons, ih]
    by_cases same : target = p
    · rw [if_pos same, same, List.count_cons_self]
      omega
    · rw [if_neg same, List.count_cons_of_ne same]

theorem count_flatMap_edges (perm : order.Perm h.ids) (p : ObjectId) :
    (order.flatMap h.edges).count p = h.inDegree p := by
  rw [(perm.flatMap_right h.edges).count_eq p, List.count_flatMap, inDegree, List.sum_eq_foldr]
  rfl

theorem residual_pos_iff (perm : order.Perm h.ids) (p : ObjectId) :
    0 < h.residual order p ↔ h.contains p ∧ h.Anchored p := by
  rw [residual, foldl_pred, count_flatMap_edges perm, Nat.sub_pos_iff_lt, Anchored, refCount?,
    contains]
  cases h.get? p with
  | none => simp
  | some o => simp

/-- The orders in which objects are visited do not matter. -/
theorem garbageBy_eq_garbage {counting starting listing : List ObjectId}
    (counted : counting.Perm h.ids) (started : starting.Perm h.ids)
    (listed : listing.Perm h.ids) : h.garbageBy counting starting listing = h.garbage := by
  have starts : ∀ q, q ∈ starting.filter (0 < h.residual counting ·) ↔
      h.contains q ∧ h.Anchored q := by
    intro q
    rw [List.mem_filter, decide_eq_true_eq, residual_pos_iff counted, started.mem_iff, mem_ids]
    exact and_iff_right_of_imp And.left
  refine ObjectId.sort_eq_of_ascending (ascending_garbage h) ?_
  have nodup := listed.symm.nodup (ids_nodup h)
  refine (List.perm_ext_iff_of_nodup (nodup.filter _) (garbage_nodup h)).2 fun p => ?_
  rw [List.mem_filter, decide_eq_true_eq, listed.mem_iff, mem_ids, mem_spread_iff,
    reachable_iff_of_anchored starts, mem_garbage_iff_lost, Lost]

/-- What the detector answers.

    To ask it changes nothing. It answers the ascending list of the live objects
    that cannot be reached from an anchored one, if there are any; the heap may
    have been left by any calls, also by such as released more than they held. The
    answer depends on the live objects alone, and not on the orders in which they
    are visited. -/
theorem detection_exact [VisitOrder] (h : Heap) :
    ∃ answer,
      h.perform .detect =
        .ok ⟨.candidates answer, h, [.detected (answer.getD []).length h.len]⟩ ∧
      (∀ objects, answer = some objects ↔
        objects ≠ [] ∧ ObjectId.Ascending objects ∧ ∀ p, p ∈ objects ↔ h.Lost p) ∧
      (answer = none ↔ ∀ p, ¬h.Lost p) ∧
      (∀ k : Heap, (∀ p, k.get? p = h.get? p) → k.detectCycles = answer) ∧
      ∀ counting starting listing : List ObjectId,
        counting.Perm h.ids → starting.Perm h.ids → listing.Perm h.ids →
          h.garbageBy counting starting listing = answer.getD [] := by
  have found : h.detectCycles.getD [] = h.garbage := by
    cases answer : h.detectCycles with
    | none => exact (detectCycles_eq_none_iff.1 answer).symm
    | some objects => exact (detectCycles_eq_some_iff.1 answer).2.symm
  refine ⟨h.detectCycles, rfl, fun objects => ?_, ?_, fun k same => ?_, ?_⟩
  · rw [detectCycles_eq_some_iff]
    refine and_congr_right fun _ => ⟨?_, fun ⟨ascending, members⟩ => ?_⟩
    · rintro rfl
      exact ⟨ascending_garbage h, fun p => mem_garbage_iff_lost⟩
    · exact (ascending_garbage h).eq_of_mem_iff ascending fun p => by
        rw [mem_garbage_iff_lost, members]
  · rw [detectCycles_eq_none_iff, List.eq_nil_iff_forall_not_mem]
    exact forall_congr' fun p => not_congr mem_garbage_iff_lost
  · rw [detectCycles, detectCycles, garbage_congr same]
  · intro counting starting listing counted started listed
    rw [garbageBy_eq_garbage counted started listed, found]

/-- An object that refers to itself twice and to a freed object, another that hangs
    off it, and one with a reference more than is held. -/
example : (⟨#[none, some ⟨2, #[⟨1⟩, ⟨0⟩, ⟨1⟩, ⟨2⟩]⟩, some ⟨1, #[]⟩, some ⟨2, #[⟨3⟩]⟩]⟩ :
    Heap).detectCycles = some [⟨1⟩, ⟨2⟩] := by cbv

end Heap

end RefCycle
