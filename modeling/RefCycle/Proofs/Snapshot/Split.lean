import RefCycle.Proofs.Collector.Agreement
import RefCycle.Proofs.Collector.Quarantine
import RefCycle.Proofs.Session.Snapshots
import RefCycle.Snapshot.Columns
/-!
# A trial splits what was captured

A snapshot pairs each candidate that has a count with it, in the order of the candidates.
A later trial deals the candidates out to two lists, by whether their counts are still the
same, and keeps their order. It does not matter whether the pairs are kept together or in
two columns.

## Main statements

* `Columns.capture_eq`, `trialDelete_columns` — columns are captured and compared as
  snapshots are.
* `confirmed_eq_filter`, `disqualified_eq_filter` — the two lists of a trial.
* `Session.Later.trial` — a trial changes nothing, and what came before it does not matter.
* `trial_splits_capture` — all of this for one snapshot.
-/

namespace RefCycle.Snapshot

variable {before after : ObjectId → Option Nat} {candidates : List ObjectId} {snapshot : Snapshot}

/-! ### Columns -/

@[simp]
theorem entries_columns (snapshot : Snapshot) : snapshot.columns.entries = snapshot.entries :=
  (List.zip_of_prod rfl rfl).symm

theorem Columns.capture_eq (before : ObjectId → Option Nat) (candidates : List ObjectId) :
    Columns.capture before candidates = (Snapshot.capture before candidates).map columns := by
  unfold Columns.capture Snapshot.capture
  dsimp only
  rw [List.unzip_eq_map]
  split
  · rename_i empty
    rw [dif_pos (List.map_eq_nil_iff.1 (List.isEmpty_iff.1 empty))]
    rfl
  · rename_i nonempty
    rw [dif_neg fun empty => nonempty (by rw [empty]; rfl)]
    rfl

/-- Candidates that are put behind others one by one lie there in their order. -/
theorem foldl_add (after : ObjectId → Option Nat) (entries : List (ObjectId × Nat))
    (result : TrialDeletion) :
    entries.foldl (TrialDeletion.add after) result =
      { confirmed := result.confirmed ++ (entries.filter (unchanged after)).map Prod.fst
        disqualified :=
          result.disqualified ++
            (entries.filter fun entry => !unchanged after entry).map Prod.fst } := by
  induction entries generalizing result with
  | nil => simp
  | cons entry entries ih =>
    rw [List.foldl_cons, ih, TrialDeletion.add]
    split
    · rename_i same
      simp [unchanged, same]
    · rename_i other
      simp [unchanged, other]

theorem trialDelete_columns (snapshot : Snapshot) (after : ObjectId → Option Nat) :
    snapshot.columns.trialDelete after = snapshot.trialDelete after := by
  rw [Columns.trialDelete, entries_columns, foldl_add]
  rfl

/-! ### The two lists -/

/-- What is chosen by its pair is chosen among the candidates by what is known of it. -/
theorem map_fst_filter (captured : capture before candidates = some snapshot)
    {pair : ObjectId × Nat → Bool} (known : ObjectId → Option Nat → Bool)
    (same : ∀ object count, pair (object, count) = known object (some count)) :
    (snapshot.entries.filter pair).map Prod.fst =
      snapshot.roots.filter fun object => known object (before object) := by
  rw [roots, List.filter_map]
  refine congrArg (List.map Prod.fst) (List.filter_congr fun entry mem => ?_)
  rw [Function.comp_apply, count_of_capture captured entry mem]
  exact same entry.1 entry.2

/-- The candidates with the counts of before are confirmed. -/
theorem confirmed_eq_filter (captured : capture before candidates = some snapshot) :
    (snapshot.trialDelete after).confirmed =
      snapshot.roots.filter fun object => after object = before object :=
  map_fst_filter captured (fun object count => after object = count) fun _ _ => rfl

/-- The others are disqualified. -/
theorem disqualified_eq_filter (captured : capture before candidates = some snapshot) :
    (snapshot.trialDelete after).disqualified =
      snapshot.roots.filter fun object => !decide (after object = before object) :=
  map_fst_filter captured (fun object count => !decide (after object = count)) fun _ _ => rfl

end RefCycle.Snapshot

namespace RefCycle

/-- A trial compares a snapshot with the heap as it is then, and changes nothing. So it does
    not matter which commands came before, trials of the same snapshot among them. -/
theorem Session.Later.trial [VisitOrder] {s t : Session} {slot : Nat} {snapshot : Snapshot}
    (later : s.Later t) (here : s.snapshots[slot]? = some (some snapshot)) :
    ∃ outcome, t.perform (.trial slot) = .ok outcome ∧
      outcome.answer = ⟨.trial? (snapshot.trialDelete (Reclaimable.refCount? t.bench)), []⟩ ∧
      outcome.state = t := by
  have still := later.snapshot here
  rw [Session.perform, Session.trial, still]
  exact ⟨_, rfl, rfl, rfl⟩

namespace Snapshot

/-- A trial is an exact split of what was captured.

    Capturing gives no snapshot exactly if no candidate has a count. Otherwise the objects
    and the counts pair each candidate that has a count with it, in the order of the
    candidates and as often as they name it; and it is the same if two columns are filled.
    A trial, pair by pair or of whole columns, confirms the objects whose counts are
    still the same and disqualifies the others, each time in order, so that the two lists
    are complementary parts of the captured objects. Against the counts of before,
    everything is confirmed. And a snapshot that is kept in a session may be tried again at
    any time: the answer depends on the counts at that time only, and nothing changes. -/
theorem trial_splits_capture [VisitOrder] (before : ObjectId → Option Nat)
    (candidates : List ObjectId) :
    (capture before candidates = none ↔ ∀ object ∈ candidates, before object = none) ∧
    Columns.capture before candidates = (capture before candidates).map columns ∧
    ∀ snapshot, capture before candidates = some snapshot →
      snapshot.roots.length = snapshot.refCounts.length ∧
      snapshot.roots.zip snapshot.refCounts =
        candidates.filterMap (fun object => (before object).map (object, ·)) ∧
      (∀ after,
        snapshot.columns.trialDelete after = snapshot.trialDelete after ∧
        (snapshot.trialDelete after).confirmed =
          ((snapshot.roots.zip snapshot.refCounts).filter
            fun pair => after pair.1 = some pair.2).map Prod.fst ∧
        (snapshot.trialDelete after).confirmed =
          snapshot.roots.filter (fun object => after object = before object) ∧
        (snapshot.trialDelete after).disqualified =
          snapshot.roots.filter (fun object => !decide (after object = before object)) ∧
        ((snapshot.trialDelete after).confirmed ++
          (snapshot.trialDelete after).disqualified).Perm snapshot.roots) ∧
      snapshot.trialDelete before = ⟨snapshot.roots, []⟩ ∧
      ∀ (s t : Session) (slot : Nat), s.snapshots[slot]? = some (some snapshot) → s.Later t →
        ∃ outcome, t.perform (.trial slot) = .ok outcome ∧
          outcome.answer = ⟨.trial? (snapshot.trialDelete (Reclaimable.refCount? t.bench)), []⟩ ∧
          outcome.state = t := by
  refine ⟨?_, Columns.capture_eq before candidates, fun snapshot captured => ?_⟩
  · rw [← not_iff_not, ← ne_eq, capture_ne_none_iff]
    simp [Option.isSome_iff_ne_none]
  · have pairs : snapshot.roots.zip snapshot.refCounts = snapshot.entries :=
      entries_columns snapshot
    refine ⟨(List.length_map _).trans (List.length_map _).symm,
      pairs.trans (entries_of_capture captured), fun after => ?_,
      trialDelete_unchanged (count_of_capture captured), fun s t slot here later => ?_⟩
    · refine ⟨trialDelete_columns snapshot after, by rw [pairs]; rfl,
        confirmed_eq_filter captured, disqualified_eq_filter captured, ?_⟩
      rw [confirmed_eq_filter captured, disqualified_eq_filter captured]
      exact List.filter_append_perm _ _
    · exact later.trial here

attribute [local instance] VisitOrder.ascending

/-- An object is named twice, another one never existed, one is retained after the capture
    and one is freed. A second trial splits what was captured, and the first one does not
    matter. -/
theorem trial_splits_capture_stale_candidates :
    ∃ (s t : Session) (snapshot : Snapshot) (outcome : Outcome Session Answer),
      capture (Reclaimable.refCount? s.bench) [⟨0⟩, ⟨3⟩, ⟨1⟩, ⟨0⟩, ⟨2⟩] = some snapshot ∧
      snapshot.columns = ⟨[⟨0⟩, ⟨1⟩, ⟨0⟩, ⟨2⟩], [2, 1, 2, 1]⟩ ∧
      s.snapshots[0]? = some (some snapshot) ∧ s.Later t ∧
      t.perform (.trial 0) = .ok outcome ∧
      outcome.answer = ⟨.trial? (some ⟨[⟨1⟩], [⟨0⟩, ⟨0⟩, ⟨2⟩]⟩), []⟩ ∧ outcome.state = t := by
  let s : Session := (Session.bare.carryOut
    [.allocate, .allocate, .allocate, .retain 1, .capture [1, 4, 2, 1, 3]]).getD .bare
  let snapshot : Snapshot := ⟨[(⟨0⟩, 2), (⟨1⟩, 1), (⟨0⟩, 2), (⟨2⟩, 1)], List.cons_ne_nil _ _⟩
  have captured :
      capture (Reclaimable.refCount? s.bench) [⟨0⟩, ⟨3⟩, ⟨1⟩, ⟨0⟩, ⟨2⟩] = some snapshot := by cbv
  have kept : s.snapshots[0]? = some (some snapshot) := by cbv
  have view : (s.carryOut [.trial 0, .retain 1, .release 3]).map
      (fun t => snapshot.trialDelete (Reclaimable.refCount? t.bench)) =
        some ⟨[⟨1⟩], [⟨0⟩, ⟨0⟩, ⟨2⟩]⟩ := by cbv
  obtain ⟨t, carried, split⟩ := Option.map_eq_some_iff.1 view
  have later : s.Later t := Session.Later.refl.carryOut carried
  obtain ⟨-, -, splits⟩ := trial_splits_capture (Reclaimable.refCount? s.bench) _
  obtain ⟨-, -, -, -, again⟩ := splits snapshot captured
  obtain ⟨outcome, performed, answer, same⟩ := again s t 0 kept later
  rw [split] at answer
  exact ⟨s, t, snapshot, outcome, captured, rfl, kept, later, performed, answer, same⟩

end Snapshot

end RefCycle
