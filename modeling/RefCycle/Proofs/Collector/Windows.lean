import Mathlib
import RefCycle.Installation.Program
import RefCycle.Proofs.Collector.Settled
/-!
# A collector is new in each window

A window begins when a collector is installed and ends when it is uninstalled. Outside of
windows nothing comes of a call, and in a window the calls are those of a collector that
was created when the window began and belongs to one owner. What happened in earlier
windows has no part in this: their collectors are gone, and calls that still wait in
them go on waiting.

## Main definitions

* `Program.Mirrors` — what happens in a window is what happens to an owned collector.
* `Program.mark` — what the reply to a call says about windows.
* `Program.Turns` — what a call can do.
* `Program.Closed`, `Program.Open` — how calls are answered outside of windows and in them.
* `Collector.Stranded` — calls that wait do not return.

## Main statements

* `perform_install`, `perform_uninstall`, `perform_errand` — the ends of a window, and
  what is done in it.
* `play_mirrors` — runs within a window.
* `turns_perform` — a call is one of the cases.
* `isSome_play` — whether a collector is installed after a run.
* `Sound.play` — what is kept by runs without faults.
* `windows_independent` — the account of all this.
-/

namespace RefCycle

/-- If a call waits, a rendezvous is requested and someone is missing. -/
def Collector.Stuck (c : Collector) : Prop :=
  c.parked ≠ [] → c.pending.rendezvous = true ∧ c.arrivals < c.workers.alive

/-- A call that waits does not return: if it comes to the barrier again it waits again,
    and its heap is not even asked. -/
def Collector.Stranded (H : Type) [Reclaimable H] (c : Collector) : Prop :=
  ∀ worker ∈ c.parked, ∀ heap : H,
    CollectedHeap.resume worker ⟨heap, c⟩ =
      .ok ⟨.waiting, ⟨heap, { c with parked := c.parked.erase worker ++ [worker] }⟩,
        [.collector (.waiting worker c.arrivals c.workers.alive)]⟩

theorem Collector.Stuck.stranded {H : Type} [Reclaimable H] {c : Collector} (stuck : c.Stuck) :
    c.Stranded H := by
  intro worker waits heap
  obtain ⟨requested, short⟩ := stuck (List.ne_nil_of_mem waits)
  simp [CollectedHeap.resume, CollectedHeap.modifyCollector, CollectedHeap.barrier,
    CollectedHeap.park, requested, short]

namespace Program

variable {ι H : Type}

/-- There is no collector, or it could be owned. -/
theorem closed_or_installed (p : Program ι H) :
    p.collector = none ∨ ∃ (o : Owned ι H) (retired : _), p = o.installed retired := by
  obtain ⟨heaps, site, collector, retired⟩ := p
  cases collector with
  | none => exact .inl rfl
  | some collector => exact .inr ⟨⟨heaps, site, collector⟩, retired, rfl⟩

variable [DecidableEq ι]

theorem goOn_installation (p : Program ι H) : p.goOn p.installation = p := by
  obtain ⟨heaps, site, collector, retired⟩ := p
  cases collector <;> simp [goOn, installation]

theorem goOn_put (o : Owned ι H) (retired : List (ι × Collector)) (s : CollectedHeap H) :
    (o.installed retired).goOn ((o.installed retired).installation.put s) =
      (o.put s).installed retired := by
  simp [goOn, Owned.installed, installation, Installation.put, Owned.put]

variable [Reclaimable H] {wreckage : Wreckage H} {p : Program ι H} {o : Owned ι H}
  {retired : List (ι × Collector)}

/-! ### Calls outside of windows -/

/-- To install a collector is to create one in its place, if there is none. -/
theorem perform_install (closed : p.collector = none) (site : ι) (config : Config)
    (now : Instant) :
    p.perform wreckage (.install site config now) =
      ⟨.ok (.response .done), (Owned.create p.heaps site config now).installed p.retired,
        [.collector (.created config), .collector .installed]⟩ := by
  obtain ⟨heaps, aim, collector, retired⟩ := p
  cases closed
  simp [perform, ask, installation, Installation.perform, Installation.install,
    Installation.isInstalled, Attempt.map, goOn, Installation.put, CollectedHeap.create,
    Owned.create, Owned.installed, Reply.ofResponse, Except.map]

theorem perform_uninstall_closed (closed : p.collector = none) :
    p.perform wreckage .uninstall = ⟨.error (.misused .notInstalled), p, []⟩ := by
  have missing : p.installation.collector = none := closed
  simp [perform, ask, Installation.perform, Installation.uninstall, missing, Attempt.map,
    goOn_installation, Reply.ofResponse, Except.map]

theorem perform_errand_closed (closed : p.collector = none) (errand : Errand) :
    p.perform wreckage (.errand errand) = ⟨.error (.misused .missingCollector), p, []⟩ := by
  have missing : p.installation.collector = none := closed
  cases errand with
  | request request =>
    simp [perform, ask, Installation.perform, Installation.forward, missing, Attempt.done,
      goOn_installation, Reply.ofResponse]
  | statistics => simp [perform, closed]

theorem perform_isInstalled (p : Program ι H) :
    p.perform wreckage .isInstalled = ⟨.ok (.flag p.collector.isSome), p, []⟩ :=
  rfl

/-! ### Calls in windows -/

theorem perform_install_installed (site : ι) (config : Config) (now : Instant) :
    (o.installed retired).perform wreckage (.install site config now) =
      ⟨.error (.misused .alreadyInstalled), o.installed retired, []⟩ := by
  have present : (o.installed retired).installation.collector = some o.collector := rfl
  simp [perform, ask, Installation.perform, Installation.install, Installation.isInstalled,
    present, Attempt.map, goOn_installation, Reply.ofResponse, Except.map]

/-- To uninstall a collector ends the window, also if workers are left. -/
theorem perform_uninstall :
    (o.installed retired).perform wreckage .uninstall =
      ⟨if o.collector.workers.alive = 0 then .ok (.response .done)
          else .error (.misused (.workersLeft o.collector.workers.alive)),
        ⟨o.heaps, o.site, none, retired ++ [(o.site, o.collector)]⟩,
        if o.collector.workers.alive = 0 then
          [.collector (.uninstalled o.collector.statistics)] else []⟩ := by
  by_cases nobody : o.collector.workers.alive = 0 <;>
    simp [perform, ask, installation, Owned.installed, Installation.perform,
      Installation.uninstall, nobody, Attempt.map, goOn, Reply.ofResponse, Except.map]

/-- An errand in a window is done as it is for an owner. -/
theorem perform_errand (errand : Errand) :
    (o.installed retired).perform wreckage (.errand errand) =
      ⟨(o.perform wreckage errand).answer, (o.perform wreckage errand).state.installed retired,
        (o.perform wreckage errand).trace⟩ := by
  cases errand with
  | request request =>
    have present : (o.installed retired).installation.collector = some o.collector := rfl
    have same : CollectedHeap.perform ⟨(o.installed retired).installation.heap, o.collector⟩
        request = o.collected.perform request := rfl
    have wrecked : (o.installed retired).wrecked wreckage (.collector request) =
        (o.put (wreckage.request o.collected request)).installed retired := goOn_put o retired _
    cases run : o.collected.perform request with
    | error fault =>
      simp only [perform, ask, Installation.perform, Installation.forward, present, same, run,
        wrecked, Owned.perform]
    | ok outcome =>
      simp only [perform, ask, Installation.perform, Installation.forward, present, same, run,
        goOn_put, Owned.perform]
  | statistics => rfl

/-! ### Runs within a window -/

/-- A call that is meant for a collector, as an errand. -/
def Entry.errand? : Entry (Call ι) → Option (Entry Errand)
  | ⟨.errand errand, reply, trace⟩ => some ⟨errand, reply, trace⟩
  | ⟨.install .., _, _⟩ | ⟨.uninstall, _, _⟩ | ⟨.isInstalled, _, _⟩ => none

/-- What happens in a window is what happens to an owned collector. Errands have the same
    replies and report the same, and lead to the same heaps and the same collector. -/
structure Mirrors (window : List (Entry (Call ι)) × Program ι H)
    (own : List (Entry Errand) × Owned ι H) : Prop where
  errands : window.1.filterMap Entry.errand? = own.1
  state : window.2 = own.2.installed window.2.retired

/-- Calls that wait in collectors that are gone may change heaps and these collectors. -/
theorem stir_eq (p : Program ι H) (index : Nat) (worker : WorkerId) :
    p.stir wreckage index worker =
      { p with
        heaps := (p.stir wreckage index worker).heaps
        retired := (p.stir wreckage index worker).retired } := by
  rw [stir]
  split
  · rfl
  · dsimp only
    split
    · split <;> rfl
    · rfl

theorem step_mirrors (wreckage : Wreckage H) {step : Step ι H}
    (within : step ≠ .call .uninstall) (o : Owned ι H) (retired : List (ι × Collector)) :
    Mirrors ((o.installed retired).step wreckage step)
      (o.step wreckage ((o.installed retired).unseenStep wreckage step)) := by
  cases step with
  | call call =>
    cases call with
    | install site config now =>
      simp only [Program.step, perform_install_installed]
      exact ⟨rfl, rfl⟩
    | uninstall => exact absurd rfl within
    | isInstalled => exact ⟨rfl, rfl⟩
    | errand errand =>
      simp only [Program.step, perform_errand]
      exact ⟨rfl, rfl⟩
  | mutate act => exact ⟨rfl, rfl⟩
  | stir index worker =>
    exact ⟨rfl, stir_eq (o.installed retired) index worker⟩

/-- As long as a window lasts, its collector could as well be owned. -/
theorem play_mirrors (wreckage : Wreckage H) {steps : List (Step ι H)}
    (within : .call .uninstall ∉ steps) (o : Owned ι H) (retired : List (ι × Collector)) :
    Mirrors ((o.installed retired).play wreckage steps)
      (o.play wreckage ((o.installed retired).unseen wreckage steps)) := by
  induction steps generalizing o retired with
  | nil => exact ⟨rfl, rfl⟩
  | cons step steps ih =>
    obtain ⟨other, later⟩ : step ≠ .call .uninstall ∧ .call .uninstall ∉ steps := by
      simpa [eq_comm] using within
    have first := step_mirrors wreckage other o retired
    have rest := ih later (o.step wreckage ((o.installed retired).unseenStep wreckage step)).2
      ((o.installed retired).step wreckage step).2.retired
    rw [← first.state] at rest
    refine ⟨?_, rest.state⟩
    show ((_ ++ _ : List (Entry (Call ι))).filterMap Entry.errand?) = _ ++ _
    rw [List.filterMap_append, first.errands]
    exact congrArg _ rest.errands

/-! ### What a call can do -/

/-- What a reply says about windows: a collector was installed, or one was there to be
    uninstalled. -/
def mark (entry : Entry (Call ι)) : Option Bool :=
  match entry.call, entry.reply with
  | .install .., .ok _ => some true
  | .uninstall, .error (.misused .notInstalled) => none
  | .uninstall, _ => some false
  | _, _ => none

/-- A call changes nothing, opens a window, ends one, or is an errand within one. -/
inductive Turns (wreckage : Wreckage H) :
    Program ι H → Call ι → Outcome (Program ι H) Reply → Prop where
  | unchanged {p : Program ι H} {call : Call ι} {reply : Reply}
      (unmarked : ∀ trace, mark ⟨call, reply, trace⟩ = none) :
      Turns wreckage p call ⟨reply, p, []⟩
  | opens {p : Program ι H} (closed : p.collector = none) (site : ι) (config : Config)
      (now : Instant) :
      Turns wreckage p (.install site config now)
        ⟨.ok (.response .done), (Owned.create p.heaps site config now).installed p.retired,
          [.collector (.created config), .collector .installed]⟩
  | ends (o : Owned ι H) (retired : List (ι × Collector)) :
      Turns wreckage (o.installed retired) .uninstall
        ⟨if o.collector.workers.alive = 0 then .ok (.response .done)
            else .error (.misused (.workersLeft o.collector.workers.alive)),
          ⟨o.heaps, o.site, none, retired ++ [(o.site, o.collector)]⟩,
          if o.collector.workers.alive = 0 then
            [.collector (.uninstalled o.collector.statistics)] else []⟩
  | errand (o : Owned ι H) (retired : List (ι × Collector)) (errand : Errand) :
      Turns wreckage (o.installed retired) (.errand errand)
        ⟨(o.perform wreckage errand).answer, (o.perform wreckage errand).state.installed retired,
          (o.perform wreckage errand).trace⟩

theorem turns_perform (wreckage : Wreckage H) (p : Program ι H) (call : Call ι) :
    Turns wreckage p call (p.perform wreckage call) := by
  obtain closed | ⟨o, retired, rfl⟩ := p.closed_or_installed
  · cases call with
    | install site config now =>
      rw [perform_install closed]
      exact .opens closed site config now
    | uninstall =>
      rw [perform_uninstall_closed closed]
      exact .unchanged fun _ => rfl
    | isInstalled => exact .unchanged fun _ => rfl
    | errand errand =>
      rw [perform_errand_closed closed]
      exact .unchanged fun _ => rfl
  · cases call with
    | install site config now =>
      rw [perform_install_installed]
      exact .unchanged fun _ => rfl
    | uninstall =>
      rw [perform_uninstall]
      exact .ends o retired
    | isInstalled => exact .unchanged fun _ => rfl
    | errand errand =>
      rw [perform_errand]
      exact .errand o retired errand

/-! ### Whether a collector is installed -/

theorem Turns.isSome {call : Call ι} {outcome : Outcome (Program ι H) Reply}
    (turns : Turns wreckage p call outcome) :
    outcome.state.collector.isSome =
      (mark ⟨call, outcome.answer, outcome.trace⟩).getD p.collector.isSome := by
  cases turns with
  | unchanged unmarked => rw [unmarked, Option.getD_none]
  | opens | errand => rfl
  | ends o retired =>
    by_cases nobody : o.collector.workers.alive = 0 <;> simp [mark, nobody]

theorem isSome_step (p : Program ι H) (step : Step ι H) :
    (p.step wreckage step).2.collector.isSome =
      ((p.step wreckage step).1.filterMap mark).getLast?.getD p.collector.isSome := by
  cases step with
  | call call =>
    have same := (turns_perform wreckage p call).isSome
    simp only [Program.step, List.filterMap_cons, List.filterMap_nil]
    rw [same]
    cases mark _ <;> rfl
  | mutate act => rfl
  | stir index worker =>
    simp only [Program.step]
    rw [stir_eq]
    rfl

/-- A collector is installed if the last mark that there is says so. -/
theorem isSome_play (p : Program ι H) (steps : List (Step ι H)) :
    (p.play wreckage steps).2.collector.isSome =
      ((p.play wreckage steps).1.filterMap mark).getLast?.getD p.collector.isSome := by
  induction steps generalizing p with
  | nil => rfl
  | cons step steps ih =>
    have later := ih (p.step wreckage step).2
    simp only [play, chain, List.filterMap_append, List.getLast?_append] at later ⊢
    rw [later, isSome_step]
    cases ((chain (Program.step wreckage) (p.step wreckage step).2 steps).1.filterMap
      mark).getLast? <;> rfl

/-! ### Runs without faults -/

/-- The installed collector has its history, and in those that are gone calls wait for
    good. -/
structure Sound (p : Program ι H) : Prop where
  history : ∀ collector, p.collector = some collector →
    ∃ entries, ∃ heap : H, CollectedHeap.History entries ⟨heap, collector⟩
  stuck : ∀ r ∈ p.retired, r.2.Stuck

/-- No call met a fault. -/
def Faultless (entries : List (Entry (Call ι))) : Prop :=
  ∀ entry ∈ entries, ∀ fault, entry.reply ≠ .error (.halted fault)

omit [DecidableEq ι] in
theorem sound_bare (heaps : ι → H) (site : ι) : (bare heaps site).Sound where
  history collector installed := by contradiction
  stuck r mem := absurd mem List.not_mem_nil

/-- A call that meets no fault keeps this up: what a new collector has done is nothing,
    and at the end of a window its history says that calls wait for good. -/
theorem Turns.sound {call : Call ι} {outcome : Outcome (Program ι H) Reply}
    (turns : Turns wreckage p call outcome) (sound : p.Sound)
    (faultless : ∀ fault, outcome.answer ≠ .error (.halted fault)) : outcome.state.Sound := by
  cases turns with
  | unchanged => exact sound
  | opens closed site config now =>
    refine ⟨fun collector installed => ?_, sound.stuck⟩
    cases installed
    exact ⟨[], _, .created (p.heaps site) config now⟩
  | ends o retired =>
    obtain ⟨entries, heap, history⟩ := sound.history o.collector rfl
    refine ⟨fun collector installed => by contradiction, fun r mem => ?_⟩
    rcases List.mem_append.1 mem with old | new
    · exact sound.stuck r old
    · obtain rfl := List.mem_singleton.1 new
      exact history.settled.waiting
  | errand o retired errand =>
    cases errand with
    | statistics => exact sound
    | request request =>
      obtain ⟨entries, heap, history⟩ := sound.history o.collector rfl
      cases run : o.collected.perform request with
      | error fault => simp [Owned.perform, run] at faultless
      | ok outcome =>
        simp only [Owned.perform, run]
        refine ⟨fun collector installed => ?_, sound.stuck⟩
        cases installed
        exact ⟨_, _, (history.mutated (o.heaps o.site)).request request run⟩

/-- A call that comes to the barrier of a collector that is gone waits again. -/
theorem Sound.stir (sound : p.Sound) (index : Nat) (worker : WorkerId) :
    (p.stir wreckage index worker).heaps = p.heaps ∧
      ∀ r ∈ (p.stir wreckage index worker).retired, r.2.Stuck := by
  rw [Program.stir]
  split
  · exact ⟨rfl, sound.stuck⟩
  · rename_i site collector here
    have stuck : collector.Stuck := sound.stuck _ (List.mem_of_getElem? here)
    dsimp only
    split
    · rename_i waits
      rw [stuck.stranded worker waits]
      refine ⟨Function.update_eq_self .., fun r mem => ?_⟩
      rcases List.mem_or_eq_of_mem_set mem with old | rfl
      · exact sound.stuck r old
      · exact fun _ => stuck (List.ne_nil_of_mem waits)
    · exact ⟨rfl, sound.stuck⟩

theorem Sound.step (sound : p.Sound) {step : Step ι H}
    (faultless : Faultless (p.step wreckage step).1) : (p.step wreckage step).2.Sound := by
  cases step with
  | mutate act => exact ⟨sound.history, sound.stuck⟩
  | stir index worker =>
    show (p.stir wreckage index worker).Sound
    rw [stir_eq]
    exact ⟨sound.history, (sound.stir index worker).2⟩
  | call call =>
    exact (turns_perform wreckage p call).sound sound (faultless _ List.mem_cons_self)

theorem Sound.play {steps : List (Step ι H)} (sound : p.Sound)
    (faultless : Faultless (p.play wreckage steps).1) : (p.play wreckage steps).2.Sound := by
  unfold Program.play at faultless ⊢
  induction steps generalizing p with
  | nil => exact sound
  | cons step steps ih =>
    have both := List.forall_mem_append.1 faultless
    exact ih (sound.step both.1) both.2

/-! ### The account -/

/-- How calls are answered where no collector is installed. All but the one that installs
    one are refused, and nothing comes of them. The window that this one opens is that of
    a new collector, whatever there was before. -/
structure Closed (wreckage : Wreckage H) (p : Program ι H) : Prop where
  isInstalled : p.perform wreckage .isInstalled = ⟨.ok (.flag false), p, []⟩
  uninstall : p.perform wreckage .uninstall = ⟨.error (.misused .notInstalled), p, []⟩
  errand : ∀ errand, p.perform wreckage (.errand errand) =
    ⟨.error (.misused .missingCollector), p, []⟩
  install : ∀ site config now, p.perform wreckage (.install site config now) =
    ⟨.ok (.response .done), (Owned.create p.heaps site config now).installed p.retired,
      [.collector (.created config), .collector .installed]⟩
  window : ∀ site config now steps, .call .uninstall ∉ steps →
    let opened := (p.perform wreckage (.install site config now)).state
    Mirrors (opened.play wreckage steps)
      ((Owned.create p.heaps site config now).play wreckage (opened.unseen wreckage steps))

/-- How calls are answered where a collector is installed. Another one is refused, and
    nothing comes of it. To uninstall the collector ends the window, and is misuse if
    workers are registered. -/
structure Open (wreckage : Wreckage H) (o : Owned ι H) (retired : List (ι × Collector)) :
    Prop where
  isInstalled : (o.installed retired).perform wreckage .isInstalled =
    ⟨.ok (.flag true), o.installed retired, []⟩
  install : ∀ site config now,
    (o.installed retired).perform wreckage (.install site config now) =
      ⟨.error (.misused .alreadyInstalled), o.installed retired, []⟩
  uninstall : (o.installed retired).perform wreckage .uninstall =
    ⟨if o.collector.workers.alive = 0 then .ok (.response .done)
        else .error (.misused (.workersLeft o.collector.workers.alive)),
      ⟨o.heaps, o.site, none, retired ++ [(o.site, o.collector)]⟩,
      if o.collector.workers.alive = 0 then
        [.collector (.uninstalled o.collector.statistics)] else []⟩

theorem closed_of_none (missing : p.collector = none) : p.Closed wreckage where
  isInstalled := by
    rw [perform_isInstalled, missing]
    rfl
  uninstall := perform_uninstall_closed missing
  errand := perform_errand_closed missing
  install := perform_install missing
  window site config now steps within := by
    rw [perform_install missing]
    exact play_mirrors wreckage within _ p.retired

theorem open_installed (o : Owned ι H) (retired : List (ι × Collector)) :
    Open wreckage o retired where
  isInstalled := rfl
  install := perform_install_installed
  uninstall := perform_uninstall

/-- Each window is that of a new collector.

    A program made calls of any kind, which may have been misuse or met faults, while its
    heaps changed in any way and calls that waited in collectors that were gone came to
    their barriers. Then a collector is installed exactly if the last call that installed
    one, or found one to uninstall, did the former. Where there is none, everything but to
    install one is refused and changes nothing; where there is one, to install another is
    refused and changes nothing, and to uninstall it ends the window. In between, what is
    asked of the collector is done as it is for the owner of one that was created with the
    window, over the same heap and with the same configuration. To its owner, calls that
    wait in collectors that are gone could at most be something that happens to the heaps;
    and unless a call met a fault, they do not do that, and wait for ever. -/
theorem windows_independent (wreckage : Wreckage H) (heaps : ι → H) (site : ι)
    (past : List (Step ι H)) :
    let run := (bare heaps site).play wreckage past
    run.2.collector.isSome = (run.1.filterMap mark).getLast?.getD false ∧
    (run.2.collector = none → run.2.Closed wreckage) ∧
    (∀ o retired, run.2 = o.installed retired → Open wreckage o retired) ∧
    (Faultless run.1 →
      (∀ r ∈ run.2.retired, r.2.Stranded H) ∧
      ∀ index worker, (run.2.stir wreckage index worker).heaps = run.2.heaps) := by
  refine ⟨isSome_play _ past, closed_of_none, fun o retired _ => open_installed o retired,
    fun faultless => ?_⟩
  have sound := (sound_bare heaps site).play faultless
  exact ⟨fun r mem => (sound.stuck r mem).stranded, fun index worker => (sound.stir index worker).1⟩

attribute [local instance] VisitOrder.ascending

/-- A first window ends as misuse, while workers are registered, one call waits, another one
    was lost and a snapshot is pending. In a second window over the same heap, a worker that
    is alone finds and reclaims the pair that was captured, and the counters start from zero.
    In between and afterwards the call that waits comes to its barrier. -/
theorem windows_independent_after_misuse :
    ∃ (heaps : Bool → Heap) (wreckage : Wreckage Heap) (past steps : List (Step Bool Heap))
      (collector : Collector),
      let run := (bare heaps false).play wreckage past
      let opened := (run.2.perform wreckage (.install false .default .zero)).state
      let own := (Owned.create run.2.heaps false .default .zero).play wreckage
        (opened.unseen wreckage steps)
      Faultless run.1 ∧ run.2.collector = none ∧ run.2.retired = [(false, collector)] ∧
      (collector.arrivals, collector.parked.length, collector.snapshot.isSome) = (2, 1, true) ∧
      collector.Stranded Heap ∧ Mirrors (opened.play wreckage steps) own ∧
      own.1.map Entry.reply = [.ok (.response .done), .ok (.response .done),
        .ok (.response (.rendezvous ⟨.completed, []⟩)), .ok (.response (.reclaimed 2)),
        .ok (.statistics ⟨1, 1, 0, 1, 2, 0⟩)] := by
  let worker (n : Nat) : WorkerId := ⟨n + 1, Nat.succ_pos n⟩
  let request (r : Collector.Request) : Step Bool Heap := .call (.errand (.request r))
  let pair : Heap := ⟨#[some ⟨1, #[⟨1⟩]⟩, some ⟨1, #[⟨0⟩]⟩]⟩
  let past : List (Step Bool Heap) :=
    [.call .uninstall, request .collect, .call (.install false .default .zero),
      request (.rendezvous (worker 9) .zero), request (.addWorker (worker 0)),
      request (.addWorker (worker 1)), request .schedule,
      request (.rendezvous (worker 0) .zero), request (.addWorker (worker 2)),
      .call (.install true .default .zero), request .schedule,
      request (.rendezvous (worker 0) .zero), .call .uninstall, .stir 0 (worker 0)]
  let steps : List (Step Bool Heap) :=
    [request (.addWorker (worker 0)), .stir 0 (worker 0), request .schedule,
      request (.rendezvous (worker 0) .zero), .call .isInstalled, request .collect,
      .call (.errand .statistics)]
  let wreckage : Wreckage Heap := ⟨fun s _ => s, fun s _ => s⟩
  let heaps : Bool → Heap := fun _ => pair
  have replies : ((bare heaps false).play wreckage past).1.map Entry.reply =
      [.error (.misused .notInstalled), .error (.misused .missingCollector),
        .ok (.response .done), .error (.misused (.unregisteredArrival (worker 9))),
        .ok (.response .done), .ok (.response .done), .ok (.response .done),
        .ok (.response (.rendezvous ⟨.completed, []⟩)), .ok (.response .done),
        .error (.misused .alreadyInstalled), .ok (.response .done),
        .ok (.response (.rendezvous ⟨.waiting, []⟩)),
        .error (.misused (.workersLeft 3))] := by cbv
  have left : (((bare heaps false).play wreckage past).2.collector.isNone,
      ((bare heaps false).play wreckage past).2.retired.map fun r =>
        (r.1, r.2.arrivals, r.2.parked.length, r.2.snapshot.isSome)) =
      (true, [(false, 2, 1, true)]) := by cbv
  have second : ((Owned.create ((bare heaps false).play wreckage past).2.heaps false .default
      .zero).play wreckage ((((bare heaps false).play wreckage past).2.perform wreckage
        (.install false .default .zero)).state.unseen wreckage steps)).1.map Entry.reply =
      [.ok (.response .done), .ok (.response .done),
        .ok (.response (.rendezvous ⟨.completed, []⟩)), .ok (.response (.reclaimed 2)),
        .ok (.statistics ⟨1, 1, 0, 1, 2, 0⟩)] := by cbv
  have within : .call .uninstall ∉ steps := by simp [steps, request]
  obtain ⟨-, closed, -, stranded⟩ := windows_independent wreckage heaps false past
  refine ⟨heaps, wreckage, past, steps, ?_⟩
  -- Nothing else is to be known of the run.
  generalize (bare heaps false).play wreckage past = run at *
  clear_value steps
  have faultless : Faultless run.1 := by
    intro entry mem fault halted
    have mem := List.mem_map_of_mem (f := Entry.reply) mem
    rw [replies, halted] at mem
    simp at mem
  obtain ⟨gone, retired⟩ : _ ∧ _ := by simpa only [Prod.mk.injEq] using left
  obtain ⟨⟨site, collector⟩, retired, eq⟩ := List.map_eq_singleton_iff.1 retired
  obtain ⟨rfl, counts⟩ : _ ∧ _ := by simpa only [Prod.mk.injEq] using eq
  have missing : run.2.collector = none := Option.isNone_iff_eq_none.1 gone
  refine ⟨collector, faultless, missing, retired, ?_, ?_,
    (closed missing).window false .default .zero steps within, second⟩
  · simpa only [Prod.mk.injEq] using counts
  · exact (stranded faultless).1 (false, collector) (retired ▸ List.mem_cons_self)

end Program

end RefCycle
