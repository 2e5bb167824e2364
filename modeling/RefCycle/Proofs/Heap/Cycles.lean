import Mathlib
import RefCycle.Heap.History
import RefCycle.Heap.Reachability
import RefCycle.Proofs.Heap.Detection
import RefCycle.Proofs.Heap.Step
import RefCycle.Proofs.Heap.Sustenance
/-!
# Counting leaves nothing behind but cycles

Whatever calls are made, also such as release more than they hold, an object does not
outlive its count. So garbage is counted, hence referred to, and by garbage: going
back along references from one piece of garbage to the next never has to stop, and must
come round, since a heap is finite. What the detector finds lies on a cycle
or hangs off one.

## Main statements

* `cascade_unreferenced`, `discard_unreferenced` — freeing by count leaves no object
  without references, whether or not the books are in order.
* `Reached.unreferenced` — nor do any calls.
* `Sustained.behind_cycle` — a finite set that keeps itself alive has its cycles.
* `Reached.only_cycles_leak` — what the detector finds, after any calls.
-/

namespace RefCycle.Heap

variable {h k : Heap} {S T : ObjectId → Prop} {p q : ObjectId} {dead targets : List ObjectId}
  {freeing : Freeing} {call : Call} {effect : Effect}

/-! ### No object outlives its count -/

theorem dropReferences_unreferenced {stack : List ObjectId} (zeros : h.Unreferenced dead)
    (run : h.dropReferences dead targets = .ok (k, stack)) : k.Unreferenced stack := by
  fun_induction dropReferences h dead targets with
  | case1 h dead =>
    cases run
    exact zeros
  | case2 h dead target targets gone ih => exact ih zeros run
  | case3 => contradiction
  | case4 h dead target targets count here ih => exact ih (zeros.drop here) run

/-- Freeing ends when no object is left without references. -/
theorem cascade_unreferenced {freedRev : List ObjectId} (zeros : h.Unreferenced dead)
    (run : h.cascade dead freedRev = .ok freeing) : freeing.heap.Unreferenced [] := by
  fun_induction cascade h dead freedRev with
  | case1 h freedRev =>
    cases run
    exact zeros
  | case2 h freedRev object rest gone ih => exact absurd gone zeros.get?_ne_none
  | case3 => contradiction
  | case4 => contradiction
  | case5 h freedRev object rest o live zero next stack dropped ih =>
    exact ih (dropReferences_unreferenced zeros.erase dropped) run

theorem discard_unreferenced (zeros : h.Unreferenced []) (run : h.discard targets = .ok freeing) :
    freeing.heap.Unreferenced [] := by
  obtain ⟨k, dead, dropped, freed⟩ := discard_eq_ok run
  exact cascade_unreferenced (dropReferences_unreferenced zeros dropped) freed

/-- No call leaves an object without references behind. -/
theorem Turns.unreferenced (turns : h.Turns call effect) (zeros : h.Unreferenced []) :
    effect.heap.Unreferenced [] := by
  cases turns with
  | refused | lacking | detected => exact zeros
  | allocated => exact allocate_unreferenced zeros
  | retained => exact zeros.raise _
  | linked => exact link_unreferenced zeros _
  | released live run => exact discard_unreferenced zeros run
  | unlinked refers run => exact discard_unreferenced (unlinked_unreferenced zeros) run
  | freed run =>
    obtain ⟨-, freeing, done, eq, -⟩ := releaseGroup_eq_ok run
    show Heap.Unreferenced _ []
    rw [eq]
    exact discard_unreferenced (zeros.eraseAll _) done

/-- After any calls, every live object has a count. -/
theorem Reached.unreferenced (reached : h.Reached) : h.Unreferenced [] := by
  obtain ⟨calls, responses, dialogue⟩ := reached
  induction dialogue with
  | start => exact ⟨List.nodup_nil, fun p => by simp [refCount?]⟩
  | next _ call performed ih => exact (turns_of_perform performed).unreferenced ih

/-! ### Going back along references -/

theorem Leads.mono (leads : h.Leads S p q) (sub : ∀ r, S r → T r) : h.Leads T p q := by
  induction leads with
  | single source target refers => exact .single (sub _ source) (sub _ target) refers
  | tail _ target refers ih => exact .tail ih (sub _ target) refers

/-- Going back from member to member leaves a path to where one started. -/
theorem leads_iterate (back : {p // S p} → {p // S p})
    (refers : ∀ p, p.1 ∈ h.edges (back p).1) (n : Nat) (p : {p // S p}) :
    h.Leads S (back^[n + 1] p).1 p.1 := by
  induction n generalizing p with
  | zero => exact .single (back p).2 p.2 (refers p)
  | succ n ih =>
    rw [Function.iterate_succ_apply]
    exact (ih (back p)).tail p.2 (refers p)

/-- To come to the same member twice is to have gone round a cycle. -/
theorem onCycle_of_iterate_eq (back : {p // S p} → {p // S p})
    (refers : ∀ p, p.1 ∈ h.edges (back p).1) {i j : Nat} (earlier : i < j) (p : {p // S p})
    (again : back^[i] p = back^[j] p) : h.OnCycle S (back^[i] p).1 := by
  obtain ⟨n, rfl⟩ : ∃ n, j = n + 1 + i := ⟨j - i - 1, by omega⟩
  have round := leads_iterate back refers n (back^[i] p)
  rw [← Function.iterate_add_apply, ← again] at round
  exact round

/-- A sustained set is finite, so each of its members lies on a cycle of members or
    can be reached from one. -/
theorem Sustained.behind_cycle (sustained : h.Sustained S) (inside : S p) :
    ∃ c, S c ∧ h.OnCycle S c ∧ (c = p ∨ h.Leads S c p) := by
  have finite : Finite {p // S p} := by
    refine (h.ids.finite_toSet.subset fun q member => ?_).to_subtype
    exact mem_ids.2 (sustained.live q member)
  have referrer : ∀ q : {p // S p}, ∃ r : {p // S p}, q.1 ∈ h.edges r.1 := by
    intro q
    obtain ⟨r, member, refers⟩ := sustained.referred q.1 q.2
    exact ⟨⟨r, member⟩, refers⟩
  choose back refers using referrer
  obtain ⟨i, j, earlier, again⟩ := Set.finite_univ.exists_lt_map_eq_of_forall_mem
    fun n => Set.mem_univ (back^[n] ⟨p, inside⟩)
  refine ⟨_, (back^[i] ⟨p, inside⟩).2, onCycle_of_iterate_eq back refers earlier _ again, ?_⟩
  cases i with
  | zero => exact .inl rfl
  | succ i => exact .inr (leads_iterate back refers i ⟨p, inside⟩)

/-! ### Garbage -/

/-- If every object has a count, garbage keeps itself alive. -/
theorem Unreferenced.garbage_sustained (zeros : h.Unreferenced []) :
    h.Sustained (· ∈ h.garbage) where
  live p mem := (mem_garbage_iff.1 mem).1
  referred p mem := by
    obtain ⟨o, here⟩ := contains_iff.1 (mem_garbage_iff.1 mem).1
    have count := refCount?_of_get? here
    have loose : ¬h.inDegree p < o.refCount :=
      fun lt => not_anchored_of_mem_garbage mem ⟨_, count, lt⟩
    have counted : o.refCount ≠ 0 := zeros.count_ne_zero count
    obtain ⟨q, refers⟩ := inDegree_pos_iff.1 (by omega : 0 < h.inDegree p)
    exact ⟨q, mem_garbage_of_refers mem refers, refers⟩

/-- What the detector finds after any calls, whatever was released: each object lies on
    a cycle of found objects, or can be reached from one along references between found
    objects. If live objects form no cycle, it finds nothing. -/
theorem Reached.only_cycles_leak [VisitOrder] (reached : h.Reached) :
    ∃ answer,
      h.perform .detect =
        .ok ⟨.candidates answer, h, [.detected (answer.getD []).length h.len]⟩ ∧
      (∀ objects, answer = some objects → ∀ p ∈ objects,
        ∃ c ∈ objects, h.OnCycle (· ∈ objects) c ∧ (c = p ∨ h.Leads (· ∈ objects) c p)) ∧
      ((∀ p, ¬h.OnCycle (fun q => h.contains q) p) → answer = none) := by
  have sustained := reached.unreferenced.garbage_sustained
  refine ⟨h.detectCycles, rfl, fun objects found p mem => ?_, fun acyclic => ?_⟩
  · obtain ⟨-, rfl⟩ := detectCycles_eq_some_iff.1 found
    exact sustained.behind_cycle mem
  · rw [detectCycles_eq_none_iff, List.eq_nil_iff_forall_not_mem]
    intro p mem
    obtain ⟨c, -, cycle, -⟩ := sustained.behind_cycle mem
    exact acyclic c (cycle.mono sustained.live)

attribute [local instance] VisitOrder.ascending

/-- An object was released once more than it was held, and is freed although another
    one refers to it: nothing is found, as this is not a cycle. Then a ring is let go
    of, and what hangs off it; so these three are found. -/
theorem only_cycles_leak_over_released :
    ∃ h k : Heap, h.Reached ∧ h = ⟨#[some ⟨1, #[⟨1⟩]⟩, none]⟩ ∧ h.Later k ∧
      k = ⟨#[some ⟨1, #[⟨1⟩]⟩, none, some ⟨1, #[⟨3⟩]⟩, some ⟨1, #[⟨2⟩, ⟨4⟩]⟩, some ⟨1, #[]⟩]⟩ ∧
      h.perform .detect = .ok ⟨.candidates none, h, [.detected 0 1]⟩ ∧
      k.perform .detect = .ok ⟨.candidates (some [⟨2⟩, ⟨3⟩, ⟨4⟩]), k, [.detected 3 4]⟩ ∧
      ∃ c ∈ [(⟨2⟩ : ObjectId), ⟨3⟩, ⟨4⟩], k.OnCycle (· ∈ [⟨2⟩, ⟨3⟩, ⟨4⟩]) c ∧
        (c = ⟨4⟩ ∨ k.Leads (· ∈ [⟨2⟩, ⟨3⟩, ⟨4⟩]) c ⟨4⟩) := by
  let h : Heap := ⟨#[some ⟨1, #[⟨1⟩]⟩, none]⟩
  let k : Heap := ⟨#[some ⟨1, #[⟨1⟩]⟩, none, some ⟨1, #[⟨3⟩]⟩, some ⟨1, #[⟨2⟩, ⟨4⟩]⟩, some ⟨1, #[]⟩]⟩
  have first : empty.makeCalls [.allocate, .allocate, .link ⟨0⟩ ⟨1⟩, .release ⟨1⟩, .release ⟨1⟩] =
      .ok h := by cbv
  have second : h.makeCalls [.allocate, .allocate, .allocate, .link ⟨2⟩ ⟨3⟩, .link ⟨3⟩ ⟨2⟩,
      .link ⟨3⟩ ⟨4⟩, .release ⟨2⟩, .release ⟨3⟩, .release ⟨4⟩] = .ok k := by cbv
  have reached : h.Reached := (Later.refl empty).makeCalls first
  have later : h.Later k := (Later.refl h).makeCalls second
  have alone : ∀ p, h.contains p → p = ⟨0⟩ := fun p live =>
    List.mem_singleton.1 ((by cbv : h.ids = [⟨0⟩]) ▸ mem_ids.2 live)
  have acyclic : ∀ p, ¬h.OnCycle (fun q => h.contains q) p := by
    -- The last step of a cycle would be a reference to the one live object.
    intro p cycle
    obtain ⟨q, refers, live⟩ : ∃ q, p ∈ h.edges q ∧ h.contains p := by
      cases cycle with
      | single _ live refers | tail _ live refers => exact ⟨_, refers, live⟩
    rw [alone p live, alone q (contains_of_mem_edges refers)] at refers
    exact absurd refers (by decide)
  obtain ⟨answer, asked, -, nothing⟩ := reached.only_cycles_leak
  obtain ⟨answer', asked', leak, -⟩ := Reached.only_cycles_leak (reached.trans later)
  have found : k.perform .detect =
      .ok ⟨.candidates (some [⟨2⟩, ⟨3⟩, ⟨4⟩]), k, [.detected 3 4]⟩ := by cbv
  have same : answer' = some [⟨2⟩, ⟨3⟩, ⟨4⟩] := by
    have eq := Except.ok.inj (asked'.symm.trans found)
    exact Response.candidates.inj (congrArg Effect.response eq)
  refine ⟨h, k, reached, rfl, later, rfl, ?_, found, leak _ same ⟨4⟩ (by decide)⟩
  rw [asked, nothing acyclic]
  rfl

end RefCycle.Heap
