import RefCycle.Heap.Reachability
import RefCycle.Proofs.Heap.InDegree
/-!
# The search for garbage

What the detector relies on: its tally holds the in-degrees, and its search finds
all that can be reached from the held objects, and nothing else. So garbage is
not held, and is referred to by garbage only.

## Main definitions

* `Heap.Lost` — a live object cannot be reached from any anchored one.

## Main statements

* `getD_tally` — the tally holds the in-degrees.
* `spread_closed` — what the search finds is closed under references.
* `not_anchored_of_mem_garbage`, `mem_garbage_of_refers` — garbage holds itself.
* `mem_spread_iff` — the search finds what can be reached from where it starts.
* `mem_garbage_iff_lost` — garbage is what is lost.
-/

namespace RefCycle.Heap

variable {h : Heap} {p q : ObjectId} {seen : ObjectSet} {stack : List ObjectId} {room : Nat}

/-- Counting the targets of references adds to each entry how often it is one. -/
theorem getElem?_foldl_modify (targets : List ObjectId) (counts : Array Nat) (i : Nat) :
    (targets.foldl (fun counts target => counts.modify target.index (· + 1)) counts)[i]? =
      counts[i]?.map (· + targets.count ⟨i⟩) := by
  induction targets generalizing counts with
  | nil => cases hi : counts[i]? <;> simp [hi]
  | cons target targets ih =>
    rw [List.foldl_cons, ih, Array.getElem?_modify]
    by_cases same : target.index = i
    · -- The entry is raised by one now and by the later targets.
      have eq : target = ⟨i⟩ := by rw [← same]
      rw [if_pos same, eq, List.count_cons_self]
      cases counts[i]? with
      | none => rfl
      | some n => simp only [Option.map_some]; congr 1; omega
    · have ne : target ≠ ⟨i⟩ := fun eq => same (congrArg ObjectId.index eq)
      rw [if_neg same, List.count_cons_of_ne ne]

theorem getElem?_foldl_tally (objects : List ObjectId) (counts : Array Nat) (i : Nat) :
    (objects.foldl (fun counts object => (h.edges object).foldl
        (fun counts target => counts.modify target.index (· + 1)) counts) counts)[i]? =
      counts[i]?.map
        (· + (objects.map fun object => (h.edges object).count ⟨i⟩).foldr (· + ·) 0) := by
  induction objects generalizing counts with
  | nil => cases hi : counts[i]? <;> simp [hi]
  | cons object objects ih =>
    rw [List.foldl_cons, ih, getElem?_foldl_modify, Option.map_map, List.map_cons, List.foldr_cons]
    cases counts[i]? with
    | none => rfl
    | some n => simp only [Option.map_some, Function.comp_apply]; congr 1; omega

/-- The tally holds the in-degree of each object that was ever allocated. -/
theorem getD_tally (inside : p.index < h.slots.size) :
    h.tally[p.index]?.getD 0 = h.inDegree p := by
  rw [tally, getElem?_foldl_tally, Array.getElem?_replicate, if_pos inside]
  simp [inDegree]

theorem isHeld_tally_iff (live : h.contains p) : h.isHeld h.tally p ↔ h.Anchored p := by
  obtain ⟨o, ho⟩ := contains_iff.1 live
  exact isHeld_iff_anchored_of_tally (getD_tally (index_lt_of_get? ho))

theorem mem_held_iff : p ∈ h.held ↔ h.contains p ∧ h.Anchored p := by
  rw [held, List.mem_filter, mem_ids]
  exact and_congr_right fun live => isHeld_tally_iff live

theorem mem_spread_of_mem (mem : p ∈ seen) : p ∈ h.spread seen stack := by
  fun_induction spread h seen stack with
  | case1 => exact mem
  | case2 seen object rest old ih => exact ih mem
  | case3 seen object rest new gone ih => exact ih mem
  | case4 seen object rest new o live ih => exact ih (ObjectSet.mem_insert.2 (.inr mem))

theorem mem_spread_of_mem_stack (live : h.contains p) (mem : p ∈ stack) :
    p ∈ h.spread seen stack := by
  fun_induction spread h seen stack with
  | case1 => contradiction
  | case2 seen object rest old ih =>
    rcases List.mem_cons.1 mem with rfl | mem
    · exact mem_spread_of_mem old
    · exact ih mem
  | case3 seen object rest new gone ih =>
    rcases List.mem_cons.1 mem with rfl | mem
    · simp [contains, gone] at live
    · exact ih mem
  | case4 seen object rest new o here ih =>
    rcases List.mem_cons.1 mem with rfl | mem
    · exact mem_spread_of_mem (ObjectSet.mem_insert.2 (.inl rfl))
    · exact ih (List.mem_append_right _ mem)

/-- The references of everything seen lead to what is seen or on the stack. -/
def Explored (h : Heap) (seen : ObjectSet) (stack : List ObjectId) : Prop :=
  ∀ p q, p ∈ seen → q ∈ h.edges p → h.contains q → q ∈ seen ∨ q ∈ stack

theorem spread_explored (explored : h.Explored seen stack) :
    h.Explored (h.spread seen stack) [] := by
  fun_induction spread h seen stack with
  | case1 => exact explored
  | case2 seen object rest old ih =>
    apply ih
    intro p q mem refers live
    rcases explored p q mem refers live with found | found
    · exact .inl found
    · rcases List.mem_cons.1 found with rfl | found
      · exact .inl old
      · exact .inr found
  | case3 seen object rest new gone ih =>
    apply ih
    intro p q mem refers live
    rcases explored p q mem refers live with found | found
    · exact .inl found
    · rcases List.mem_cons.1 found with rfl | found
      · simp [contains, gone] at live
      · exact .inr found
  | case4 seen object rest new o here ih =>
    -- The references of the new object are stacked; those of others led here or elsewhere.
    apply ih
    intro p q mem refers live
    rcases ObjectSet.mem_insert.1 mem with rfl | mem
    · rw [edges_of_get? here] at refers
      exact .inr (List.mem_append_left _ refers)
    · rcases explored p q mem refers live with found | found
      · exact .inl (ObjectSet.mem_insert.2 (.inr found))
      · rcases List.mem_cons.1 found with rfl | found
        · exact .inl (ObjectSet.mem_insert.2 (.inl rfl))
        · exact .inr (List.mem_append_right _ found)

/-- What is found from an empty set is closed under references to live objects. -/
theorem spread_closed (found : p ∈ h.spread (.empty room) stack)
    (refers : q ∈ h.edges p) (live : h.contains q) : q ∈ h.spread (.empty room) stack := by
  have start : h.Explored (.empty room) stack := fun p q mem =>
    absurd mem (ObjectSet.not_mem_empty p room)
  simpa using spread_explored start p q found refers live

theorem mem_garbage_iff :
    p ∈ h.garbage ↔ h.contains p ∧ p ∉ h.spread (.empty h.slots.size) h.held := by
  simp [garbage, idsOutside, mem_ids]

theorem ids_nodup (h : Heap) : h.ids.Nodup := by
  refine List.Nodup.filter _ (List.Nodup.map (fun i j eq => ?_) List.nodup_range)
  exact congrArg ObjectId.index eq

theorem garbage_nodup (h : Heap) : h.garbage.Nodup :=
  (ids_nodup h).filter _

/-- Garbage is not held: its count does not exceed its in-degree. -/
theorem not_anchored_of_mem_garbage (mem : p ∈ h.garbage) : ¬h.Anchored p := by
  obtain ⟨live, missed⟩ := mem_garbage_iff.1 mem
  exact fun anchored => missed (mem_spread_of_mem_stack live (mem_held_iff.2 ⟨live, anchored⟩))

/-- What refers to garbage is garbage. -/
theorem mem_garbage_of_refers (mem : p ∈ h.garbage) (refers : p ∈ h.edges q) : q ∈ h.garbage := by
  obtain ⟨live, missed⟩ := mem_garbage_iff.1 mem
  refine mem_garbage_iff.2 ⟨contains_of_mem_edges refers, fun found => missed ?_⟩
  exact spread_closed found refers live

/-! ### The search finds what can be reached -/

/-- What can be reached from roots that can be reached can itself be reached. -/
theorem Reachable.bind {roots more : ObjectId → Prop} (reach : h.Reachable roots p)
    (sub : ∀ q, h.contains q → roots q → h.Reachable more q) : h.Reachable more p := by
  induction reach with
  | root live isRoot => exact sub _ live isRoot
  | edge _ refers live ih => exact .edge ih refers live

theorem reachable_of_mem_spread {seen : ObjectSet} (found : p ∈ h.spread seen stack) :
    p ∈ seen ∨ h.Reachable (· ∈ stack) p := by
  fun_induction spread h seen stack with
  | case1 seen => exact .inl found
  | case2 seen object rest old ih =>
    exact (ih found).imp_right fun reach => reach.mono fun q => List.mem_cons_of_mem _
  | case3 seen object rest new gone ih =>
    exact (ih found).imp_right fun reach => reach.mono fun q => List.mem_cons_of_mem _
  | case4 seen object rest new o here ih =>
    -- What was stacked for the object can be reached through it.
    have start : h.Reachable (· ∈ object :: rest) object :=
      .root (contains_iff.2 ⟨o, here⟩) List.mem_cons_self
    rcases ih found with mem | reach
    · rcases ObjectSet.mem_insert.1 mem with rfl | mem
      · exact .inr start
      · exact .inl mem
    · refine .inr (reach.bind fun q live stacked => ?_)
      rcases List.mem_append.1 stacked with refers | stacked
      · rw [← edges_of_get? here] at refers
        exact .edge start refers live
      · exact .root live (List.mem_cons_of_mem _ stacked)

/-- The search finds what can be reached from where it starts. -/
theorem mem_spread_iff : p ∈ h.spread (.empty room) stack ↔ h.Reachable (· ∈ stack) p := by
  constructor
  · intro found
    exact (reachable_of_mem_spread found).resolve_left (ObjectSet.not_mem_empty p room)
  · intro reach
    induction reach with
    | root live stacked => exact mem_spread_of_mem_stack live stacked
    | edge _ refers live ih => exact spread_closed ih refers live

/-- Any list of the anchored objects is a good place to start from. -/
theorem reachable_iff_of_anchored (starts : ∀ q, q ∈ stack ↔ h.contains q ∧ h.Anchored q) :
    h.Reachable (· ∈ stack) p ↔ h.Reachable h.Anchored p :=
  ⟨fun reach => reach.mono fun q stacked => ((starts q).1 stacked).2,
    fun reach => reach.bind fun q live anchored => .root live ((starts q).2 ⟨live, anchored⟩)⟩

/-- A live object cannot be reached from any object of which more references are
    counted than live objects hold. -/
def Lost (h : Heap) (p : ObjectId) : Prop :=
  h.contains p ∧ ¬h.Reachable h.Anchored p

/-- Garbage is what is lost. -/
theorem mem_garbage_iff_lost : p ∈ h.garbage ↔ h.Lost p := by
  rw [mem_garbage_iff, mem_spread_iff, reachable_iff_of_anchored fun q => mem_held_iff, Lost]

end RefCycle.Heap
