import RefCycle.Collector.History
import RefCycle.Installation
/-!
# Histories of an installation

Which installations can come about. Collectors are installed and uninstalled, and
requests are made to the one that is installed; some of all these may be misuse.

## Main definitions

* `Installation.Reached` — an installation comes about by requests.
* `Installation.play` — carries out requests in order.

## Main statements

* `Reached.play` — playing requests goes on with an installation that is reached.
* `Reached.history` — what happened to the installed collector is a history.
-/

namespace RefCycle.Installation

variable {H : Type} [Reclaimable H] {s next : Installation H}

/-- An installation comes about from a heap without a collector by any requests, between
    which the heap may change in any way. -/
inductive Reached : Installation H → Prop where
  | bare (heap : H) : Reached (bare heap)
  | request {s : Installation H}
      {outcome : Outcome (Installation H) (Except Misuse Collector.Response)}
      (reached : Reached s) (request : Request) (performed : s.perform request = .ok outcome) :
      Reached outcome.state
  | mutated {s : Installation H} (reached : Reached s) (heap : H) : Reached { s with heap }

/-- Carries out requests in order, as long as none meets a fault. -/
def play (s : Installation H) : List Request → Option (Installation H)
  | [] => some s
  | request :: requests =>
    match s.perform request with
    | .error _ => none
    | .ok outcome => outcome.state.play requests

/-- Playing requests goes on with an installation that is reached. -/
theorem Reached.play {requests : List Request} (reached : s.Reached)
    (played : s.play requests = some next) : next.Reached := by
  induction requests generalizing s with
  | nil =>
    cases played
    exact reached
  | cons request requests ih =>
    rw [Installation.play] at played
    split at played
    · contradiction
    · exact ih (reached.request request ‹_›) played

/-- The installed collector has its history, from when it was installed. -/
theorem Reached.history {collector : Collector} (reached : s.Reached)
    (installed : s.collector = some collector) :
    ∃ entries, CollectedHeap.History entries ⟨s.heap, collector⟩ := by
  induction reached generalizing collector with
  | bare heap => contradiction
  | @request s outcome reached request performed ih =>
    cases request with
    | install config now =>
      cases performed
      cases before : s.collector with
      | none =>
        simp only [install, before, put, Option.some.injEq] at installed ⊢
        subst installed
        exact ⟨[], .created s.heap config now⟩
      | some old =>
        simp only [install, before] at installed ⊢
        exact ih (before.trans installed)
    | uninstall =>
      cases performed
      cases before : s.collector with
      | none => simp [uninstall, before] at installed
      | some old =>
        simp only [uninstall, before] at installed
        split at installed <;> contradiction
    | collector request =>
      simp only [perform, forward] at performed
      split at performed
      · cases performed
        exact ih installed
      · rename_i old before
        split at performed
        · contradiction
        · rename_i outcome carried
          cases performed
          obtain rfl : outcome.state.collector = collector := Option.some.inj installed
          obtain ⟨entries, history⟩ := ih before
          exact ⟨_, history.request request carried⟩
  | mutated reached heap ih =>
    obtain ⟨entries, history⟩ := ih installed
    exact ⟨entries, history.mutated heap⟩

end RefCycle.Installation
