import RefCycle.Heap.Call
import RefCycle.Proofs.Heap.Mutation
/-!
# What a call can do

The cases of `Heap.perform`, with the effect of each and the condition under
which it occurs. Whatever is said about all calls is said by these cases.

## Main definitions

* `Heap.Turns` — the cases.

## Main statements

* `turns_of_perform` — a call that is carried out is one of the cases.
* `perform_refused_iff`, `perform_refused` — when calls are refused for a freed
  object, and that a refused call changes nothing.
-/

namespace RefCycle.Heap

variable {order : VisitOrder} {h : Heap} {call : Call} {effect : Effect} {p : ObjectId}

/-- A call is refused, or it turns the heap into another. A group may be visited in any
    order. -/
inductive Turns (h : Heap) : Call → Effect → Prop where
  | refused {call : Call} {object : ObjectId}
      (missing : call.needs.find? (fun q => !h.contains q) = some object) :
      Turns h call ⟨.refused (.freed object), h, []⟩
  | lacking {source target : ObjectId} (live : h.contains source) :
      Turns h (.unlink source target) ⟨.refused (.missingEdge source target), h, []⟩
  | detected : Turns h .detect ⟨.candidates h.detection.candidates, h, h.detection.records⟩
  | allocated : Turns h .allocate
      ⟨.allocated h.allocate.1, h.allocate.2, [.allocated h.allocate.1]⟩
  | retained {object : ObjectId} {count : Nat} (here : h.refCount? object = some count) :
      Turns h (.retain object) ⟨.done, h.setCount object (count + 1), []⟩
  | linked {source target : ObjectId} {count : Nat} (live : h.contains source)
      (here : h.refCount? target = some count) :
      Turns h (.link source target) ⟨.done, h.linked source target count, []⟩
  | released {object : ObjectId} {freeing : Freeing} (live : h.contains object)
      (run : h.discard [object] = .ok freeing) :
      Turns h (.release object) ⟨.freed freeing.freed.length, freeing.heap, freeing.records⟩
  | unlinked {source target : ObjectId} {freeing : Freeing} (refers : target ∈ h.edges source)
      (run : (h.unlinked source target).discard [target] = .ok freeing) :
      Turns h (.unlink source target)
        ⟨.freed freeing.freed.length, freeing.heap, freeing.records⟩
  | freed [VisitOrder] {group : List ObjectId} {release : GroupRelease}
      (run : h.releaseGroup group = .ok release) :
      Turns h (.releaseGroup group) ⟨.freed release.reclaimed, release.heap, release.records⟩

theorem ofFreeing_eq_ok {result : Except Failure Freeing}
    (done : Effect.ofFreeing h result = .ok effect) :
    (∃ refusal, result = .error (.refused refusal) ∧ effect = ⟨.refused refusal, h, []⟩) ∨
    ∃ freeing, result = .ok freeing ∧
      effect = ⟨.freed freeing.freed.length, freeing.heap, freeing.records⟩ := by
  match result with
  | .error (.halted fault) => contradiction
  | .error (.refused refusal) => exact .inl ⟨refusal, rfl, (Except.ok.inj done).symm⟩
  | .ok freeing => exact .inr ⟨freeing, rfl, (Except.ok.inj done).symm⟩

theorem release_eq_refused {object : ObjectId} {refusal : Refusal}
    (run : h.release object = .error (.refused refusal)) :
    ¬h.contains object ∧ refusal = .freed object := by
  rw [release] at run
  split at run
  · cases done : h.discard [object] <;> simp [done, Except.mapError] at run
  · cases run
    exact ⟨‹_›, rfl⟩

theorem unlink_eq_refused {source target : ObjectId} {refusal : Refusal}
    (run : h.unlink source target = .error (.refused refusal)) :
    (¬h.contains source ∧ refusal = .freed source) ∨
    (h.contains source ∧ refusal = .missingEdge source target) := by
  rw [unlink] at run
  split at run
  · cases run
    exact .inl ⟨by simp [contains, *], rfl⟩
  · rename_i o here
    split at run
    · split at run
      · cases done : (h.unlinked source target).discard [target] <;>
          rw [unlinked] at done <;> simp [done, Except.mapError] at run
      · simp at run
    · cases run
      exact .inr ⟨contains_iff.2 ⟨o, here⟩, rfl⟩

theorem turns_of_perform (performed : h.perform call = .ok effect) : h.Turns call effect := by
  cases call with
  | allocate =>
    cases performed
    exact .allocated
  | detect =>
    cases performed
    exact .detected
  | retain object =>
    cases performed
    cases here : h.refCount? object with
    | none =>
      have dead := refCount?_eq_none_iff.1 here
      simp only [retain, here, Effect.ofUpdate]
      exact .refused (by simp [Call.needs, dead])
    | some count =>
      simp only [retain, here, Effect.ofUpdate]
      exact .retained here
  | link source target =>
    cases performed
    by_cases live : h.contains source
    · cases here : h.refCount? target with
      | none =>
        have dead := refCount?_eq_none_iff.1 here
        simp only [link, if_pos live, here, Effect.ofUpdate]
        exact .refused (by simp [Call.needs, live, dead])
      | some count =>
        simp only [link, if_pos live, here, Effect.ofUpdate]
        exact .linked live here
    · simp only [link, if_neg live, Effect.ofUpdate]
      exact .refused (by simp [Call.needs, live])
  | release object =>
    obtain ⟨refusal, run, rfl⟩ | ⟨freeing, run, rfl⟩ := ofFreeing_eq_ok performed
    · obtain ⟨dead, rfl⟩ := release_eq_refused run
      exact .refused (by simp [Call.needs, dead])
    · exact .released (release_eq_ok run).1 (release_eq_ok run).2
  | unlink source target =>
    obtain ⟨refusal, run, rfl⟩ | ⟨freeing, run, rfl⟩ := ofFreeing_eq_ok performed
    · obtain ⟨dead, rfl⟩ | ⟨live, rfl⟩ := unlink_eq_refused run
      · exact .refused (by simp [Call.needs, dead])
      · exact .lacking live
    · exact .unlinked (unlink_eq_ok run).1 (unlink_eq_ok run).2
  | releaseGroup group =>
    simp only [perform, Reclaimable.releaseGroup] at performed
    cases run : h.releaseGroup group with
    | error fault => simp [run] at performed
    | ok release =>
      simp only [run] at performed
      cases performed
      exact .freed run

/-- A call is refused for a freed object exactly if the first object that it needs
    and that is not live is that object. -/
theorem perform_refused_iff (performed : h.perform call = .ok effect) (p : ObjectId) :
    effect.response = .refused (.freed p) ↔
      call.needs.find? (fun q => !h.contains q) = some p := by
  cases turns_of_perform performed with
  | refused missing => simp [missing]
  | lacking live => simp [Call.needs, live]
  | detected | allocated | freed => simp [Call.needs]
  | retained here => simp [Call.needs, contains_of_refCount? here]
  | linked live here => simp [Call.needs, live, contains_of_refCount? here]
  | released live => simp [Call.needs, live]
  | unlinked refers => simp [Call.needs, contains_of_mem_edges refers]

/-- A refused call changes nothing. -/
theorem perform_refused (performed : h.perform call = .ok effect) {refusal : Refusal}
    (refused : effect.response = .refused refusal) : effect.heap = h ∧ effect.records = [] := by
  cases turns_of_perform performed with
  | refused | lacking => exact ⟨rfl, rfl⟩
  | detected | allocated | retained | linked | released | unlinked | freed => contradiction

end RefCycle.Heap
