import RefCycle.Clock.Duration
/-!
# Instants

A reading of a monotonic clock: a signed 64-bit count of seconds and the
nanoseconds beyond it. Instants before the origin of a clock are instants like
any other; only measuring from the origin treats them as no time elapsed.

## Main definitions

* `RefCycle.Instant` — a point on the time line.
* `Instant.toNanos` — its signed distance from second zero; it determines the
  instant and its place in the order.
* `Instant.after?`, `Instant.before?` — moving by a duration, if in range.
* `Instant.advance` — moving an instant in its place.
* `Instant.since` — the distance to an earlier instant, zero for a later one.
* `Instant.elapsed`, `Instant.micros` — the time since an origin, and its
  microseconds in 64 bits.
-/

namespace RefCycle

/-- A point in time. The nanoseconds always count forward from the second. -/
structure Instant where
  /-- The whole seconds, rounded toward the past. -/
  seconds : Int
  /-- The nanoseconds after that second. -/
  nanos : Nat
  le_seconds : -0x8000_0000_0000_0000 ≤ seconds
  seconds_lt : seconds < 0x8000_0000_0000_0000
  nanos_lt : nanos < 1_000_000_000

namespace Instant

def zero : Instant :=
  ⟨0, 0, by decide, by decide, Duration.zero.nanos_lt⟩

/-- The signed distance from second zero, in nanoseconds. -/
def toNanos (t : Instant) : Int :=
  t.seconds * 1_000_000_000 + t.nanos

/-- Instants are ordered by seconds, and within a second by nanoseconds. -/
instance : Ord Instant where
  compare a b := (compare a.seconds b.seconds).then (compare a.nanos b.nanos)

instance : LE Instant where
  le a b := a.seconds < b.seconds ∨ a.seconds = b.seconds ∧ a.nanos ≤ b.nanos

instance (a b : Instant) : Decidable (a ≤ b) :=
  inferInstanceAs (Decidable (a.seconds < b.seconds ∨ a.seconds = b.seconds ∧ a.nanos ≤ b.nanos))

/-- The instant that lies a duration after another, unless it is out of range.
    Nanoseconds that fill a second are carried into the seconds. -/
def after? (t : Instant) (d : Duration) : Except ClockError Instant :=
  let carry : Nat := (t.nanos + d.nanos) / 1_000_000_000
  if h : t.seconds + d.seconds + carry < 0x8000_0000_0000_0000 then
    .ok
      { seconds := t.seconds + d.seconds + carry
        nanos := (t.nanos + d.nanos) % 1_000_000_000
        le_seconds := by have := t.le_seconds; omega
        seconds_lt := h
        nanos_lt := Nat.mod_lt _ (by decide) }
  else
    .error .sumOverflow

/-- Replaces an instant by the one that lies a duration after it. If that is out
    of range, the instant stays what it was. -/
def advance (d : Duration) : EStateM ClockError Instant Unit := do
  match (← get).after? d with
  | .ok moved => set moved
  | .error error => throw error

/-- The instant that lies a duration before another, unless it is out of range.
    Nanoseconds that do not suffice are borrowed from the seconds. -/
def before? (t : Instant) (d : Duration) : Except ClockError Instant :=
  let borrow : Nat := if d.nanos ≤ t.nanos then 0 else 1
  if h : -0x8000_0000_0000_0000 ≤ t.seconds - d.seconds - borrow then
    .ok
      { seconds := t.seconds - d.seconds - borrow
        nanos := t.nanos + borrow * 1_000_000_000 - d.nanos
        le_seconds := h
        seconds_lt := by have := t.seconds_lt; omega
        nanos_lt := by
          have := t.nanos_lt
          simp only [borrow]
          split <;> omega }
  else
    .error .differenceOverflow

/-- The time that has passed between an earlier instant and this one. If the
    other instant is not earlier, no time has passed. -/
def since (t earlier : Instant) : Duration :=
  if h : earlier ≤ t then
    let borrow : Nat := if earlier.nanos ≤ t.nanos then 0 else 1
    { seconds := (t.seconds - earlier.seconds - borrow).toNat
      nanos := t.nanos + borrow * 1_000_000_000 - earlier.nanos
      seconds_lt := by
        have := t.seconds_lt
        have := earlier.le_seconds
        omega
      nanos_lt := by
        have := t.nanos_lt
        simp only [borrow]
        split <;> omega }
  else
    .zero

/-- The time that has passed since an origin. -/
def elapsed (t origin : Instant) : Duration :=
  t.since origin

/-- The whole microseconds since an origin, kept in 64 bits. -/
def micros (t origin : Instant) : Nat :=
  (t.elapsed origin).toMicros % 0x1_0000_0000_0000_0000

/-- An instant as its microseconds since an origin, such as `1500us`. -/
def text (t origin : Instant) : String :=
  toString (t.micros origin) ++ "us"

/-- An instant is determined by its distance from second zero. -/
theorem toNanos_inj {a b : Instant} : a.toNanos = b.toNanos ↔ a = b := by
  refine ⟨fun h => ?_, fun h => h ▸ rfl⟩
  obtain ⟨as, an, _, _, ha⟩ := a
  obtain ⟨bs, bn, _, _, hb⟩ := b
  simp only [toNanos] at h
  obtain rfl : as = bs := by omega
  obtain rfl : an = bn := by omega
  rfl

instance : DecidableEq Instant := fun _ _ => decidable_of_iff _ toNanos_inj

/-- The order in time is the order of the distances from second zero. -/
theorem le_iff_toNanos_le {a b : Instant} : a ≤ b ↔ a.toNanos ≤ b.toNanos := by
  have := a.nanos_lt
  have := b.nanos_lt
  change (a.seconds < b.seconds ∨ a.seconds = b.seconds ∧ a.nanos ≤ b.nanos) ↔ _
  simp only [toNanos]
  omega

/-- Moving forward adds the length of the duration. -/
theorem after?_eq_ok_iff {t u : Instant} {d : Duration} :
    t.after? d = .ok u ↔ u.toNanos = t.toNanos + d.toNanos := by
  have := u.seconds_lt
  have := u.nanos_lt
  simp only [after?]
  split
  · rw [Except.ok.injEq, ← toNanos_inj]
    simp only [toNanos, Duration.toNanos]
    omega
  · simp only [toNanos, Duration.toNanos, reduceCtorEq, false_iff]
    omega

/-- In its place or not, an instant moves in the same way. -/
theorem advance_eq (t : Instant) (d : Duration) :
    advance d t =
      match t.after? d with
      | .ok moved => .ok () moved
      | .error error => .error error t := by
  change (match t.after? d with
    | .ok moved => set moved
    | .error error => throw error : EStateM ClockError Instant Unit) t = _
  cases t.after? d <;> rfl

/-- The distance between two instants, where a later one is at distance zero. -/
theorem toNanos_since (t earlier : Instant) :
    ((t.since earlier).toNanos : Int) = max 0 (t.toNanos - earlier.toNanos) := by
  have := t.nanos_lt
  have := earlier.nanos_lt
  by_cases h : earlier ≤ t
  · have hle := le_iff_toNanos_le.1 h
    change (earlier.seconds < t.seconds ∨ earlier.seconds = t.seconds ∧ _) at h
    simp only [toNanos] at hle
    rw [since, dif_pos (by exact h)]
    simp only [Duration.toNanos, toNanos]
    split <;> omega
  · have hle := mt le_iff_toNanos_le.2 h
    rw [since, dif_neg h]
    simp only [Duration.toNanos_zero]
    omega

end Instant

end RefCycle
