/-!
# Durations

A span of time of less than 2^64 seconds, to the nanosecond, and its text in
the largest unit of which it holds at least one.

## Main definitions

* `RefCycle.Duration` — whole seconds and the nanoseconds beyond them.
* `Duration.toNanos` — the length as one number; it determines the duration.
* `Duration.ofParts?`, `Duration.ofMicros` — durations from counts of units.
* `Duration.add?` — one duration after the other.
* `Duration.text` — the exact decimal text, such as `1.5ms`.
-/

namespace RefCycle

/-- What can go wrong when times are computed. -/
inductive ClockError where
  | durationOverflow
  | durationSumOverflow
  | sumOverflow
  | differenceOverflow
  deriving DecidableEq

def ClockError.message : ClockError → String
  | .durationOverflow => "overflow in Duration::new"
  | .durationSumOverflow => "overflow when adding durations"
  | .sumOverflow => "overflow when adding duration to instant"
  | .differenceOverflow => "overflow when subtracting duration from instant"

/-- A length of time, in whole seconds and the nanoseconds that are left. -/
structure Duration where
  seconds : Nat
  /-- The nanoseconds that do not make up a second. -/
  nanos : Nat
  seconds_lt : seconds < 0x1_0000_0000_0000_0000
  nanos_lt : nanos < 1_000_000_000
  deriving DecidableEq

namespace Duration

def toNanos (d : Duration) : Nat :=
  d.seconds * 1_000_000_000 + d.nanos

def toMicros (d : Duration) : Nat :=
  d.seconds * 1_000_000 + d.nanos / 1_000

def zero : Duration :=
  ⟨0, 0, by decide, by decide⟩

/-- The shortest time that can be told from none. -/
def nanosecond : Duration :=
  ⟨0, 1, by decide, by decide⟩

/-- So many seconds and nanoseconds, where nanoseconds may exceed a second. -/
def ofParts? (seconds nanos : Nat) : Except ClockError Duration :=
  if h : seconds + nanos / 1_000_000_000 < 0x1_0000_0000_0000_0000 then
    .ok ⟨seconds + nanos / 1_000_000_000, nanos % 1_000_000_000, h, Nat.mod_lt _ (by decide)⟩
  else
    .error .durationOverflow

/-- The sum of two durations, unless it is too long. -/
def add? (d e : Duration) : Except ClockError Duration :=
  (ofParts? (d.seconds + e.seconds) (d.nanos + e.nanos)).mapError fun _ => .durationSumOverflow

def ofMicros (micros : UInt64) : Duration where
  seconds := micros.toNat / 1_000_000
  nanos := micros.toNat % 1_000_000 * 1_000
  seconds_lt := by have := micros.toNat_lt; omega
  nanos_lt := by omega

/-- A duration is determined by its length. -/
theorem toNanos_inj {d e : Duration} : d.toNanos = e.toNanos ↔ d = e := by
  refine ⟨fun h => ?_, fun h => h ▸ rfl⟩
  obtain ⟨ds, dn, _, hd⟩ := d
  obtain ⟨es, en, _, he⟩ := e
  simp only [toNanos] at h
  obtain rfl : ds = es := by omega
  obtain rfl : dn = en := by omega
  rfl

@[simp] theorem toNanos_zero : zero.toNanos = 0 := rfl

theorem toNanos_lt (d : Duration) : d.toNanos < 0x1_0000_0000_0000_0000 * 1_000_000_000 := by
  have := d.seconds_lt
  have := d.nanos_lt
  simp only [toNanos]
  omega

theorem toMicros_eq (d : Duration) : d.toMicros = d.toNanos / 1_000 := by
  simp only [toMicros, toNanos]
  omega

/-- Parts make the duration that is as long as they are together, if there is one. -/
theorem ofParts?_eq_ok_iff {seconds nanos : Nat} {d : Duration} :
    ofParts? seconds nanos = .ok d ↔ d.toNanos = seconds * 1_000_000_000 + nanos := by
  have := d.toNanos_lt
  rw [ofParts?]
  split
  · rw [Except.ok.injEq, ← toNanos_inj]
    simp only [toNanos]
    omega
  · exact ⟨nofun, fun h => by omega⟩

theorem add?_eq_ok_iff {d e f : Duration} :
    d.add? e = .ok f ↔ f.toNanos = d.toNanos + e.toNanos := by
  have parts : d.add? e = .ok f ↔ ofParts? (d.seconds + e.seconds) (d.nanos + e.nanos) = .ok f := by
    rw [add?]
    cases ofParts? (d.seconds + e.seconds) (d.nanos + e.nanos) with
    | ok sum => exact Iff.rfl
    | error error => exact ⟨nofun, nofun⟩
  rw [parts, ofParts?_eq_ok_iff]
  simp only [toNanos]
  omega

/-- There is a sum unless it is too long. -/
theorem exists_add?_iff {d e : Duration} :
    (∃ f, d.add? e = .ok f) ↔
      d.toNanos + e.toNanos < 0x1_0000_0000_0000_0000 * 1_000_000_000 := by
  constructor
  · rintro ⟨f, sum⟩
    exact add?_eq_ok_iff.1 sum ▸ f.toNanos_lt
  · intro short
    simp only [toNanos] at short
    rw [add?, ofParts?, dif_pos (by omega)]
    exact ⟨_, rfl⟩

@[simp] theorem toMicros_ofMicros (micros : UInt64) :
    (ofMicros micros).toMicros = micros.toNat := by
  simp only [toMicros, ofMicros]
  omega

@[simp] theorem toNanos_ofMicros (micros : UInt64) :
    (ofMicros micros).toNanos = micros.toNat * 1_000 := by
  simp only [toNanos, ofMicros]
  omega

/-- The digits of a fraction, `part` out of `10 ^ places`, with a point before
    them and without trailing zeros; nothing if the part is zero. -/
def fractionText (part places : Nat) : String :=
  let digits := Nat.toDigits 10 part
  let padded := List.replicate (places - digits.length) '0' ++ digits
  let kept := (padded.reverse.dropWhile (· == '0')).reverse
  if kept.isEmpty then "" else "." ++ String.ofList kept

/-- The text in seconds, milliseconds, microseconds or nanoseconds, whichever is
    the largest unit that the duration reaches. -/
def text (d : Duration) : String :=
  if 0 < d.seconds then
    toString d.seconds ++ fractionText d.nanos 9 ++ "s"
  else if 1_000_000 ≤ d.nanos then
    toString (d.nanos / 1_000_000) ++ fractionText (d.nanos % 1_000_000) 6 ++ "ms"
  else if 1_000 ≤ d.nanos then
    toString (d.nanos / 1_000) ++ fractionText (d.nanos % 1_000) 3 ++ "µs"
  else
    toString d.nanos ++ "ns"

end Duration

end RefCycle
