import RefCycle.Outcome
/-!
# Laws and specifications of attempts

## Main definitions

* `Attempt.after` — an attempt, with what happened before it.
* `Attempt.onState` — an attempt, with a change made to the state that it leaves.
* `Attempt.final` — the state that an attempt leaves.
* `Attempt.Ensures` — the faults that an attempt may meet, and what holds of its
  outcome otherwise.

## Main statements

* `andThen_assoc`, `map_andThen`, `andThen_map`, `ok_andThen`, `done_andThen`,
  `after_andThen` — how sequences are put together.
* `onState_andThen` — a change of state that the second part does not mind.
* `Ensures.bind`, `Ensures.andThen`, `Ensures.map`, `Ensures.mono`, `Ensures.and` — the
  rules for sequences, changed answers, and weaker and joint specifications.
-/

namespace RefCycle.Attempt

variable {σ α β γ : Type} {fault : Fault → Prop}

/-! ### Sequences -/

theorem andThen_assoc (first : Attempt σ α) (next : α → σ → Attempt σ β)
    (last : β → σ → Attempt σ γ) :
    (first.andThen next).andThen last = first.andThen fun a s => (next a s).andThen last := by
  cases first with
  | error f => rfl
  | ok a =>
    simp only [andThen]
    cases next a.answer a.state with
    | error f => rfl
    | ok b =>
      dsimp only
      cases last b.answer b.state with
      | error f => rfl
      | ok c => simp only [List.append_assoc]

theorem map_andThen (first : Attempt σ α) (next : α → σ → Attempt σ β) (f : β → γ) :
    (first.andThen next).map f = first.andThen fun a s => (next a s).map f := by
  cases first with
  | error f => rfl
  | ok a =>
    simp only [andThen]
    cases next a.answer a.state <;> rfl

theorem andThen_map (first : Attempt σ α) (f : α → β) (next : β → σ → Attempt σ γ) :
    (first.map f).andThen next = first.andThen fun a s => next (f a) s := by
  cases first <;> rfl

/-- An attempt, with what happened before it. -/
def after (before : Trace) (r : Attempt σ α) : Attempt σ α :=
  match r with
  | .error fault => .error fault
  | .ok o => .ok ⟨o.answer, o.state, before ++ o.trace⟩

theorem ok_andThen (a : Outcome σ α) (next : α → σ → Attempt σ β) :
    Attempt.andThen (.ok a) next = (next a.answer a.state).after a.trace := by
  simp only [andThen]
  cases next a.answer a.state <;> rfl

theorem done_andThen (answer : α) (state : σ) (next : α → σ → Attempt σ β) :
    (done answer state).andThen next = next answer state := by
  rw [done, ok_andThen]
  cases next answer state <;> rfl

theorem after_andThen (before : Trace) (r : Attempt σ α) (next : α → σ → Attempt σ β) :
    (r.after before).andThen next = (r.andThen next).after before := by
  cases r with
  | error f => rfl
  | ok a =>
    simp only [after, andThen]
    cases next a.answer a.state with
    | error f => rfl
    | ok b => simp only [List.append_assoc]

/-! ### Changes of state -/

/-- An attempt, with a change made to the state that it leaves. -/
def onState (f : σ → σ) (r : Attempt σ α) : Attempt σ α :=
  match r with
  | .error fault => .error fault
  | .ok o => .ok ⟨o.answer, f o.state, o.trace⟩

theorem andThen_onState (f : σ → σ) (r : Attempt σ α) (next : α → σ → Attempt σ β) :
    (r.onState f).andThen next = r.andThen fun a s => next a (f s) := by
  cases r <;> rfl

theorem onState_map (f : σ → σ) (g : α → β) (r : Attempt σ α) :
    (r.onState f).map g = (r.map g).onState f := by
  cases r <;> rfl

theorem bind_onState {f : σ → σ} {x : Except Fault γ} {next next' : γ → Except Fault (Outcome σ α)}
    (same : ∀ v, next' v = Attempt.onState f (next v)) :
    (x >>= next') = Attempt.onState f (x >>= next : Except Fault (Outcome σ α)) := by
  cases x with
  | error fault => rfl
  | ok v => exact same v

/-- If the second of two operations does not mind a change of the state, it may as well
    be made afterwards. -/
theorem onState_andThen {f : σ → σ} (r : Attempt σ α) {next : α → σ → Attempt σ β}
    (mindless : ∀ a s, next a (f s) = (next a s).onState f) :
    (r.onState f).andThen next = (r.andThen next).onState f := by
  cases r with
  | error f => rfl
  | ok a =>
    simp only [onState, andThen, mindless]
    cases next a.answer a.state <;> rfl

/-! ### What is left -/

theorem exists_of_map_eq_ok {ε : Type} {f : α → β} {x : Except ε α} {b : β}
    (run : Except.map f x = .ok b) : ∃ a, x = .ok a ∧ f a = b := by
  cases x with
  | error => contradiction
  | ok a => exact ⟨a, rfl, Except.ok.inj run⟩

/-- The state that an attempt leaves, whatever it answers and reports. -/
def final (r : Attempt σ α) : Except Fault σ :=
  Except.map Outcome.state r

@[simp]
theorem final_after (before : Trace) (r : Attempt σ α) : (r.after before).final = r.final := by
  cases r <;> rfl

@[simp]
theorem final_map (f : α → β) (r : Attempt σ α) : (r.map f).final = r.final := by
  cases r <;> rfl

@[simp]
theorem final_onState (f : σ → σ) (r : Attempt σ α) :
    (r.onState f).final = Except.map f r.final := by
  cases r <;> rfl

theorem final_andThen_done (r : Attempt σ α) (g : σ → β) (f : σ → σ) :
    (r.andThen fun _ s => done (g s) (f s)).final = Except.map f r.final := by
  cases r <;> rfl

/-! ### Specifications -/

/-- An attempt meets no fault but given ones, and its outcome has a given property. -/
def Ensures (r : Attempt σ α) (fault : Fault → Prop) (post : Outcome σ α → Prop) : Prop :=
  match r with
  | .error f => fault f
  | .ok o => post o

theorem Ensures.of_ok {r : Attempt σ α} {post : Outcome σ α → Prop} {o : Outcome σ α}
    (h : r.Ensures fault post) (run : r = .ok o) : post o := by
  subst run
  exact h

theorem Ensures.of_error {r : Attempt σ α} {post : Outcome σ α → Prop} {f : Fault}
    (h : r.Ensures fault post) (run : r = .error f) : fault f := by
  subst run
  exact h

theorem Ensures.with_run {r : Attempt σ α} {post : Outcome σ α → Prop}
    (h : r.Ensures fault post) : r.Ensures fault fun o => r = .ok o ∧ post o := by
  cases r with
  | error f => exact h
  | ok o => exact ⟨rfl, h⟩

theorem Ensures.mono {r : Attempt σ α} {post post' : Outcome σ α → Prop}
    (h : r.Ensures fault post) (imp : ∀ o, post o → post' o) : r.Ensures fault post' := by
  cases r with
  | error f => exact h
  | ok o => exact imp o h

theorem Ensures.and {fault' : Fault → Prop} {r : Attempt σ α} {post post' : Outcome σ α → Prop}
    (h : r.Ensures fault post) (h' : r.Ensures fault' post') :
    r.Ensures fault fun o => post o ∧ post' o := by
  cases r with
  | error f => exact h
  | ok o => exact ⟨h, h'⟩

theorem Ensures.bind {x : Except Fault γ}
    {next : γ → Except Fault (Outcome σ α)} {post : Outcome σ α → Prop}
    (bad : ∀ f, x = .error f → fault f)
    (good : ∀ v, x = .ok v → Attempt.Ensures (next v) fault post) :
    Attempt.Ensures (x >>= next : Except Fault (Outcome σ α)) fault post := by
  cases x with
  | error f => exact bad f rfl
  | ok v => exact good v rfl

theorem Ensures.andThen {r : Attempt σ α} {next : α → σ → Attempt σ β}
    {mid : Outcome σ α → Prop} {post : Outcome σ β → Prop} (first : r.Ensures fault mid)
    (second : ∀ a, mid a → (next a.answer a.state).Ensures fault fun b =>
      post ⟨b.answer, b.state, a.trace ++ b.trace⟩) :
    (r.andThen next).Ensures fault post := by
  cases r with
  | error f => exact first
  | ok a =>
    have then_ := second a first
    simp only [Attempt.andThen]
    split
    · rename_i f run
      exact then_.of_error run
    · rename_i b run
      exact then_.of_ok run

/-- What follows may be exchanged where what comes first ends. -/
theorem Ensures.andThen_congr {r : Attempt σ α} {next next' : α → σ → Attempt σ β}
    {post : Outcome σ α → Prop} (first : r.Ensures fault post)
    (same : ∀ a, post a → next a.answer a.state = next' a.answer a.state) :
    r.andThen next = r.andThen next' := by
  cases r with
  | error f => rfl
  | ok a => rw [ok_andThen, ok_andThen, same a first]

theorem Ensures.map {r : Attempt σ α} {f : α → β} {post : Outcome σ β → Prop}
    (h : r.Ensures fault fun o => post ⟨f o.answer, o.state, o.trace⟩) :
    (r.map f).Ensures fault post := by
  cases r with
  | error f => exact h
  | ok o => exact h

theorem Ensures.after {before : Trace} {r : Attempt σ α} {post : Outcome σ α → Prop}
    (h : r.Ensures fault fun o => post ⟨o.answer, o.state, before ++ o.trace⟩) :
    (r.after before).Ensures fault post := by
  cases r with
  | error f => exact h
  | ok o => exact h

end RefCycle.Attempt
