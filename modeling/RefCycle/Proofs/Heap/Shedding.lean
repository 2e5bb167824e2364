import Mathlib
import RefCycle.Proofs.Heap.Enclosure
/-!
# What freeing takes

Freeing takes an object when the last reference to it has gone. So what is freed
together with given objects is the least set that contains them and every object
of which all references come from members of the set. Survivors keep their
references, and lose from their counts what the freed objects referred to.

## Main definitions

* `Heap.Removes` — a list of the objects that are gone from a heap.
* `Heap.referencesFrom` — the number of references to an object from members of a set.
* `Heap.Absorbing` — a set has every object to which only its members refer.
* `Heap.Sheds` — what is left of a heap without the objects in a set.

## Main statements

* `cascade_removes`, `discard_removes`, `releaseGroup_removes` — freeing lists what it
  takes, each object once.
* `Shrinks.survives_iff` — what freeing leaves is held, or something that is left refers to it.
* `discard_within` — freeing does not leave an absorbing set.
* `Sheds.eq` — what is left depends only on what is gone.
* `eraseAll_sheds` — an enclosed set goes together with the least absorbing set around it.
-/

namespace RefCycle.Heap

variable {h k l : Heap} {held : ObjectId → Nat} {p q object : ObjectId}
  {objects freed more : List ObjectId} {freeing : Freeing}

/-! ### Lists of what is gone -/

/-- The objects which are live in one heap and gone from another, each of them once. -/
structure Removes (h k : Heap) (freed : List ObjectId) : Prop where
  nodup : freed.Nodup
  live : ∀ p ∈ freed, h.contains p
  remains_iff : ∀ p, k.contains p ↔ h.contains p ∧ p ∉ freed

theorem removes_nil (same : ∀ p, k.contains p = h.contains p) : Removes h k [] where
  nodup := List.nodup_nil
  live p mem := absurd mem List.not_mem_nil
  remains_iff p := by simp [same]

theorem Removes.append (first : Removes h k freed) (second : Removes k l more) :
    Removes h l (freed ++ more) where
  nodup := by
    refine List.nodup_append.2 ⟨first.nodup, second.nodup, ?_⟩
    rintro p mem q later rfl
    exact ((first.remains_iff p).1 (second.live p later)).2 mem
  live p mem := by
    rcases List.mem_append.1 mem with mem | mem
    · exact first.live p mem
    · exact ((first.remains_iff p).1 (second.live p mem)).1
  remains_iff p := by
    rw [second.remains_iff, first.remains_iff, List.mem_append, not_or, and_assoc]

theorem removes_foldl_erase (nodup : objects.Nodup) (live : ∀ p ∈ objects, h.contains p) :
    Removes h (objects.foldl Heap.erase h) objects :=
  ⟨nodup, live, fun _ => contains_foldl_erase.trans and_comm⟩

theorem cascade_removes {dead freedRev : List ObjectId}
    (run : h.cascade dead freedRev = .ok freeing) :
    ∃ freed, freeing.freed = freedRev.reverse ++ freed ∧ Removes h freeing.heap freed := by
  fun_induction cascade h dead freedRev with
  | case1 h freedRev =>
    cases run
    exact ⟨[], (List.append_nil _).symm, removes_nil fun _ => rfl⟩
  | case2 h freedRev object rest gone ih => exact ih run
  | case3 => contradiction
  | case4 => contradiction
  | case5 h freedRev object rest o live zero next stack dropped ih =>
    obtain ⟨freed, eq, removes⟩ := ih run
    have erased : Removes h (h.erase object) [object] :=
      removes_foldl_erase (List.nodup_singleton object) fun p mem =>
        List.mem_singleton.1 mem ▸ contains_iff.2 ⟨o, live⟩
    have kept := removes_nil (contains_dropReferences dropped).2
    refine ⟨object :: freed, ?_, (erased.append kept).append removes⟩
    rw [eq, List.reverse_cons, List.append_assoc, List.singleton_append]

theorem discard_removes {targets : List ObjectId} (run : h.discard targets = .ok freeing) :
    Removes h freeing.heap freeing.freed := by
  obtain ⟨k, dead, dropped, freed⟩ := discard_eq_ok run
  obtain ⟨new, eq, removes⟩ := cascade_removes freed
  rw [eq]
  exact (removes_nil (contains_dropReferences dropped).2).append removes

theorem releaseGroup_removes {order : VisitOrder} {group : List ObjectId}
    {release : GroupRelease} (run : h.releaseGroup group = .ok release) :
    Removes h release.heap (release.cyclic ++ release.freed) := by
  obtain ⟨-, freeing, done, heap, freed⟩ := releaseGroup_eq_ok run
  rw [heap, freed]
  refine (removes_foldl_erase (cyclic_nodup run) fun p mem => ?_).append (discard_removes done)
  exact (contains_members.1 (mem_garbage_iff.1 ((mem_cyclic_iff run).1 mem)).1).2

theorem Removes.ids_perm (removes : Removes h k freed) : h.ids.Perm (k.ids ++ freed) := by
  have nodup : (k.ids ++ freed).Nodup := by
    refine List.nodup_append.2 ⟨ids_nodup k, removes.nodup, ?_⟩
    rintro p alive q gone rfl
    exact ((removes.remains_iff p).1 (mem_ids.1 alive)).2 gone
  refine (List.perm_ext_iff_of_nodup (ids_nodup h) nodup).2 fun p => ?_
  rw [List.mem_append, mem_ids, mem_ids, removes.remains_iff]
  by_cases gone : p ∈ freed
  · simp [gone, removes.live p gone]
  · simp [gone]

/-- As many objects fewer are live as were freed. -/
theorem Removes.len (removes : Removes h k freed) : k.len + freed.length = h.len := by
  rw [Heap.len, Heap.len, removes.ids_perm.length_eq, List.length_append]

/-! ### References from a set -/

/-- The number of references to an object that members of a set hold. -/
def referencesFrom (h : Heap) (S : Finset ObjectId) (p : ObjectId) : Nat :=
  ∑ q ∈ S, (h.edges q).count p

/-- Every live object of which all references come from members of a set is in the set. -/
def Absorbing (h : Heap) (S : Finset ObjectId) : Prop :=
  ∀ p, h.refCount? p = some (h.referencesFrom S p) → p ∈ S

variable {S F : Finset ObjectId}

theorem inDegree_eq_referencesFrom (h : Heap) (p : ObjectId) :
    h.inDegree p = h.referencesFrom h.ids.toFinset p := by
  rw [inDegree, ← List.sum_eq_foldr, referencesFrom, List.sum_toFinset _ (ids_nodup h)]

theorem mem_ids_of_refers (refers : (h.edges q).count p ≠ 0) : q ∈ h.ids := by
  refine mem_ids.2 (contains_of_mem_edges (q := p) ?_)
  exact List.count_pos_iff.1 (Nat.pos_of_ne_zero refers)

theorem referencesFrom_le_inDegree (h : Heap) (S : Finset ObjectId) (p : ObjectId) :
    h.referencesFrom S p ≤ h.inDegree p := by
  rw [inDegree_eq_referencesFrom]
  refine Finset.sum_le_sum_of_ne_zero fun q _ refers => ?_
  exact List.mem_toFinset.2 (mem_ids_of_refers refers)

/-- A set has all references to an object if it has everything that refers to it. -/
theorem referencesFrom_eq_inDegree_iff :
    h.referencesFrom S p = h.inDegree p ↔ ∀ q, p ∈ h.edges q → q ∈ S := by
  constructor
  · intro all q refers
    by_contra outside
    have more := h.referencesFrom_le_inDegree (insert q S) p
    have pos := List.count_pos_iff.2 refers
    rw [referencesFrom, Finset.sum_insert outside, ← referencesFrom, all] at more
    omega
  · intro inside
    refine Nat.le_antisymm (h.referencesFrom_le_inDegree S p) ?_
    rw [inDegree_eq_referencesFrom]
    refine Finset.sum_le_sum_of_ne_zero fun q _ refers => ?_
    exact inside q (List.count_pos_iff.1 (Nat.pos_of_ne_zero refers))

/-- If the books are in order, all references to an object come from a set exactly
    if nothing else refers to the object and no mutator holds it. -/
theorem Balanced.refCount?_eq_referencesFrom_iff (balanced : h.Balanced held [])
    (live : h.contains p) :
    h.refCount? p = some (h.referencesFrom S p) ↔
      held p = 0 ∧ ∀ q, p ∈ h.edges q → q ∈ S := by
  obtain ⟨n, here⟩ := exists_refCount? live
  have law := balanced.counted p _ here
  have le := h.referencesFrom_le_inDegree S p
  rw [List.count_nil] at law
  rw [← referencesFrom_eq_inDegree_iff, here, Option.some.injEq]
  omega

/-- The objects that are gone took their references with them. -/
theorem Removes.inDegree_add_referencesFrom (removes : Removes h k freed) (less : Shrinks h k)
    (p : ObjectId) : k.inDegree p + h.referencesFrom freed.toFinset p = h.inDegree p := by
  have kept : k.ids.map (fun q => (k.edges q).count p) = k.ids.map fun q => (h.edges q).count p :=
    List.map_congr_left fun q mem => by rw [less.edges q (mem_ids.1 mem)]
  rw [inDegree, inDegree, ← List.sum_eq_foldr, ← List.sum_eq_foldr, kept, referencesFrom,
    List.sum_toFinset _ removes.nodup, (removes.ids_perm.map _).sum_eq, List.map_append,
    List.sum_append]

/-! ### What freeing leaves -/

/-- What freeing leaves is held, or something that is left refers to it. -/
theorem Shrinks.survives_iff (less : Shrinks h k) (balanced : k.Balanced held [])
    (zeros : k.Unreferenced []) :
    k.contains p ↔ 0 < held p ∨ ∃ q, k.contains q ∧ p ∈ h.edges q := by
  have refers : (∃ q, k.contains q ∧ p ∈ h.edges q) ↔ 0 < k.inDegree p := by
    rw [inDegree_pos_iff]
    constructor
    · rintro ⟨q, left, refers⟩
      exact ⟨q, less.edges q left ▸ refers⟩
    · rintro ⟨q, refers⟩
      have left := contains_of_mem_edges refers
      exact ⟨q, left, less.edges q left ▸ refers⟩
  rw [refers, ← Nat.add_pos_iff_pos_or_pos]
  refine ⟨fun left => ?_, balanced.live p⟩
  obtain ⟨n, here⟩ := exists_refCount? left
  have law := balanced.counted p _ here
  rw [List.count_nil, Nat.add_zero] at law
  exact law ▸ Nat.pos_of_ne_zero (zeros.count_ne_zero here)

/-! ### Freeing stays within absorbing sets -/

/-- A set that absorbs whatever only its members refer to also has everything that
    a cascade frees, if it has everything that is gone already. -/
theorem cascade_within {dead freedRev : List ObjectId} (absorbing : h.Absorbing S)
    (books : h.Balanced held []) (less : Shrinks h k) (balanced : k.Balanced held [])
    (zeros : k.Unreferenced dead) (gone : ∀ q, h.contains q → ¬k.contains q → q ∈ S)
    (run : k.cascade dead freedRev = .ok freeing) :
    ∀ q, h.contains q → ¬freeing.heap.contains q → q ∈ S := by
  fun_induction cascade k dead freedRev with
  | case1 k freedRev =>
    cases run
    exact gone
  | case2 k freedRev object rest missing ih => exact absurd missing zeros.get?_ne_none
  | case3 => contradiction
  | case4 => contradiction
  | case5 k freedRev object rest o live zero next stack dropped ih =>
    have here : k.contains object := contains_iff.2 ⟨o, live⟩
    have law := balanced.counted object _ ((zeros.mem_iff object).1 List.mem_cons_self)
    rw [List.count_nil] at law
    -- Whatever referred to the object is gone, and so in the set.
    have member : object ∈ S := by
      refine absorbing object ((books.refCount?_eq_referencesFrom_iff (less.contains _ here)).2 ?_)
      refine ⟨by omega, fun q refers => gone q (contains_of_mem_edges refers) fun alive => ?_⟩
      rw [← less.edges q alive] at refers
      have := inDegree_pos_iff.2 ⟨q, refers⟩
      omega
    obtain ⟨next', stack', done, balanced', zeros'⟩ :=
      dropReferences_balanced (balanced.erase live (by simpa using zero)) zeros.erase
    obtain ⟨rfl, rfl⟩ := Prod.mk.inj (Except.ok.inj (done.symm.trans dropped))
    have less' := (shrinks_erase k object).trans (dropReferences_shrinks dropped)
    refine ih (less.trans less') balanced' zeros' (fun q old new => ?_) run
    rw [(contains_dropReferences dropped).2, contains_erase] at new
    by_cases same : q = object
    · exact same ▸ member
    · exact gone q old fun alive => new ⟨same, alive⟩

theorem discard_within {due : List ObjectId} (absorbing : h.Absorbing S)
    (books : h.Balanced held []) (less : Shrinks h k) (balanced : k.Balanced held due)
    (zeros : k.Unreferenced []) (gone : ∀ q, h.contains q → ¬k.contains q → q ∈ S)
    (run : k.discard due = .ok freeing) :
    ∀ q, h.contains q → ¬freeing.heap.contains q → q ∈ S := by
  obtain ⟨next, dead, dropped, freed⟩ := discard_eq_ok run
  obtain ⟨next', dead', done, balanced', zeros'⟩ := dropReferences_balanced balanced zeros
  obtain ⟨rfl, rfl⟩ := Prod.mk.inj (Except.ok.inj (done.symm.trans dropped))
  refine cascade_within absorbing books (less.trans (dropReferences_shrinks dropped)) balanced'
    zeros' (fun q old new => gone q old ?_) freed
  rwa [(contains_dropReferences dropped).2] at new

/-- What freeing takes absorbs: an object without other references does not survive. -/
theorem Removes.absorbing (removes : Removes h k freed) (less : Shrinks h k)
    (books : h.Balanced held []) (balanced : k.Balanced held []) (zeros : k.Unreferenced []) :
    h.Absorbing freed.toFinset := by
  intro p all
  by_contra survivor
  rw [List.mem_toFinset] at survivor
  have live := contains_of_refCount? all
  obtain ⟨unheld, inside⟩ := (books.refCount?_eq_referencesFrom_iff live).1 all
  obtain ⟨n, here⟩ := exists_refCount? ((removes.remains_iff p).2 ⟨live, survivor⟩)
  have law := balanced.counted p _ here
  have degree : k.inDegree p = 0 := by
    have sum := removes.inDegree_add_referencesFrom less p
    have := referencesFrom_eq_inDegree_iff.2 inside
    omega
  rw [List.count_nil, unheld, degree] at law
  exact zeros.count_ne_zero here law

/-! ### What is left -/

/-- What is left of a heap without the objects in a set: the others keep their
    references, and lose from their counts what members of the set referred to. -/
structure Sheds (h k : Heap) (F : Finset ObjectId) : Prop where
  size : k.slots.size = h.slots.size
  live : ∀ p ∈ F, h.contains p
  remains_iff : ∀ p, k.contains p ↔ h.contains p ∧ p ∉ F
  edges : ∀ p, k.contains p → k.edges p = h.edges p
  refCount? : ∀ p count, k.refCount? p = some count →
    h.refCount? p = some (count + h.referencesFrom F p)

theorem Removes.sheds (removes : Removes h k freed) (less : Shrinks h k)
    (books : h.Balanced held []) (balanced : k.Balanced held []) :
    Sheds h k freed.toFinset where
  size := less.size
  live p mem := removes.live p (List.mem_toFinset.1 mem)
  remains_iff p := by rw [removes.remains_iff, List.mem_toFinset]
  edges := less.edges
  refCount? p count here := by
    obtain ⟨n, old⟩ := exists_refCount? (less.contains p (contains_of_refCount? here))
    have before := books.counted p _ old
    have after := balanced.counted p _ here
    have sum := removes.inDegree_add_referencesFrom less p
    rw [List.count_nil] at before after
    rw [old, Option.some.injEq]
    omega

/-- What is left depends only on what is gone. -/
theorem Sheds.eq (first : Sheds h k F) (second : Sheds h l F) : k = l := by
  have live : ∀ p, k.contains p ↔ l.contains p := fun p => by
    rw [first.remains_iff, second.remains_iff]
  refine ext_get? (first.size.trans second.size.symm) fun p => ?_
  by_cases here : k.contains p
  · obtain ⟨⟨count, edges⟩, ho⟩ := contains_iff.1 here
    obtain ⟨⟨count', edges'⟩, ho'⟩ := contains_iff.1 ((live p).1 here)
    have kept := (first.edges p here).trans (second.edges p ((live p).1 here)).symm
    have left := (first.refCount? p _ (refCount?_of_get? ho)).symm.trans
      (second.refCount? p _ (refCount?_of_get? ho'))
    rw [edges_of_get? ho, edges_of_get? ho', Array.toList_inj] at kept
    rw [Option.some.injEq, Nat.add_right_cancel_iff] at left
    rw [ho, ho', Option.some.injEq, Object.mk.injEq]
    exact ⟨left, kept⟩
  · have gone := mt (live p).2 here
    simp only [contains, Bool.not_eq_true, Option.isSome_eq_false_iff, Option.isNone_iff_eq_none]
      at here gone
    rw [here, gone]

/-- To erase an enclosed set and to drop its references, whatever the order, takes the
    least absorbing set around it. -/
theorem eraseAll_sheds (balanced : h.Balanced held []) (zeros : h.Unreferenced [])
    (nodup : objects.Nodup) (enclosed : h.Enclosed held (· ∈ objects)) :
    ∃ (freeing : Freeing) (F : Finset ObjectId),
      (objects.foldl Heap.erase h).discard (objects.flatMap h.edges) = .ok freeing ∧
      IsLeast {S | objects.toFinset ⊆ S ∧ h.Absorbing S} F ∧ Sheds h freeing.heap F ∧
      F.card = objects.length + freeing.freed.length := by
  have erased := balanced.eraseAll nodup enclosed
  obtain ⟨freeing, run, balanced', zeros'⟩ := discard_balanced erased (zeros.eraseAll objects)
  have less := shrinks_foldl_erase objects h
  have first := removes_foldl_erase nodup enclosed.live
  have removes := first.append (discard_removes run)
  have all := less.trans (discard_shrinks run)
  refine ⟨freeing, (objects ++ freeing.freed).toFinset, run, ⟨⟨?_, ?_⟩, ?_⟩, ?_, ?_⟩
  · intro p mem
    exact List.mem_toFinset.2 (List.mem_append_left _ (List.mem_toFinset.1 mem))
  · exact removes.absorbing all balanced balanced' zeros'
  · rintro S ⟨sub, absorbing⟩ p mem
    rw [List.mem_toFinset] at mem
    have within := discard_within absorbing balanced less erased (zeros.eraseAll objects)
      (fun q old new => sub (List.mem_toFinset.2 ?_)) run
    · exact within p (removes.live p mem) fun alive => ((removes.remains_iff p).1 alive).2 mem
    · by_contra kept
      exact new (contains_foldl_erase.2 ⟨kept, old⟩)
  · exact removes.sheds all balanced balanced'
  · rw [List.toFinset_card_of_nodup removes.nodup, List.length_append]

end RefCycle.Heap
