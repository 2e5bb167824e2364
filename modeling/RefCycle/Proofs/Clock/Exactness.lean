import Mathlib
import RefCycle.Clock.Instant
/-!
# Times are computed exactly

An instant is its signed distance from second zero, and a duration is its length. All that
is computed of them is computed of these numbers, with no carry or borrow lost, as long as
the seconds of an instant stay within 64 bits with a sign.

## Main definitions

* `Instant.InRange` — the distances from second zero at which there are instants.
* `Instant.atNanos?` — the instant at a distance.

## Main statements

* `after?_eq`, `bind_after?_eq` — one and two moves, as distances.
* `after?_since`, `since_of_after?` — moving and measuring undo each other.
* `add?_since` — distances add up.
* `compare_eq` — the order of instants is the order of distances.
* `micros_eq`, `micros_mono` — the microseconds since an origin.
* `arithmetic_exact` — all of this together.
-/

namespace RefCycle.Instant

variable {a b c t u v origin : Instant} {d e : Duration} {m n : Int}

/-! ### Distances from second zero -/

/-- The seconds of a distance, rounded toward the past, fit 64 bits with a sign. -/
def InRange (nanos : Int) : Prop :=
  -0x8000_0000_0000_0000 ≤ nanos / 1_000_000_000 ∧ nanos / 1_000_000_000 < 0x8000_0000_0000_0000

instance (nanos : Int) : Decidable (InRange nanos) :=
  inferInstanceAs (Decidable (_ ∧ _))

/-- The instant at a distance from second zero, if there is one. -/
def atNanos? (nanos : Int) : Except ClockError Instant :=
  if h : InRange nanos then
    .ok
      { seconds := nanos / 1_000_000_000
        nanos := (nanos % 1_000_000_000).toNat
        le_seconds := h.1
        seconds_lt := h.2
        nanos_lt := by omega }
  else
    .error .sumOverflow

theorem inRange_toNanos (t : Instant) : InRange t.toNanos := by
  have := t.le_seconds
  have := t.seconds_lt
  have := t.nanos_lt
  simp only [InRange, toNanos]
  omega

/-- There are no gaps between instants. -/
theorem InRange.between {k : Int} (low : InRange m) (high : InRange n) (le : m ≤ k)
    (le' : k ≤ n) : InRange k := by
  simp only [InRange] at *
  omega

theorem atNanos?_eq_ok_iff : atNanos? n = .ok u ↔ u.toNanos = n := by
  constructor
  · intro h
    rw [atNanos?] at h
    split at h
    · injection h with h
      subst h
      simp only [toNanos]
      omega
    · contradiction
  · rintro rfl
    rw [atNanos?, dif_pos u.inRange_toNanos, Except.ok.injEq, ← toNanos_inj]
    simp only [toNanos]
    omega

theorem atNanos?_eq_error_iff {error : ClockError} :
    atNanos? n = .error error ↔ error = .sumOverflow ∧ ¬InRange n := by
  rw [atNanos?]
  split
  · next inRange => simp [inRange]
  · next outside => simp [outside, eq_comm]

theorem exists_atNanos?_iff : (∃ u, atNanos? n = .ok u) ↔ InRange n := by
  constructor
  · rintro ⟨u, h⟩
    exact atNanos?_eq_ok_iff.1 h ▸ u.inRange_toNanos
  · intro inRange
    rw [atNanos?, dif_pos inRange]
    exact ⟨_, rfl⟩

/-! ### Moving -/

/-- A move adds the length of the duration to the distance. -/
theorem after?_eq (t : Instant) (d : Duration) : t.after? d = atNanos? (t.toNanos + d.toNanos) := by
  cases moved : t.after? d with
  | ok u => exact (atNanos?_eq_ok_iff.2 (after?_eq_ok_iff.1 moved)).symm
  | error error =>
    have outside : ¬InRange (t.toNanos + d.toNanos) := fun inRange => by
      obtain ⟨u, there⟩ := exists_atNanos?_iff.2 inRange
      have moves := after?_eq_ok_iff.2 (atNanos?_eq_ok_iff.1 there)
      exact nomatch moved.symm.trans moves
    have overflow : error = .sumOverflow := by
      rw [after?] at moved
      split at moved
      · contradiction
      · exact (Except.error.inj moved).symm
    exact (atNanos?_eq_error_iff.2 ⟨overflow, outside⟩).symm

/-- Two moves add both lengths. The place between them is in range whenever the last one
    is, as it lies between that one and the first. -/
theorem bind_after?_eq (t : Instant) (d e : Duration) :
    (t.after? d).bind (·.after? e) = atNanos? (t.toNanos + d.toNanos + e.toNanos) := by
  cases moved : t.after? d with
  | ok u =>
    rw [← after?_eq_ok_iff.1 moved]
    exact u.after?_eq e
  | error error =>
    rw [after?_eq, atNanos?_eq_error_iff] at moved
    obtain ⟨rfl, outside⟩ := moved
    refine (atNanos?_eq_error_iff.2 ⟨rfl, fun inRange => outside ?_⟩).symm
    exact t.inRange_toNanos.between inRange (by omega) (by omega)

/-- A move by a sum is a move by one part and then by the other. If the sum is too long,
    it leads from no instant to another one. -/
theorem bind_add?_eq_ok_iff :
    (d.add? e).bind t.after? = .ok u ↔ u.toNanos = t.toNanos + d.toNanos + e.toNanos := by
  cases sum : d.add? e with
  | ok both =>
    have := Duration.add?_eq_ok_iff.1 sum
    change t.after? both = .ok u ↔ _
    rw [after?_eq_ok_iff]
    omega
  | error error =>
    refine ⟨nofun, fun there => ?_⟩
    have short : d.toNanos + e.toNanos < 0x1_0000_0000_0000_0000 * 1_000_000_000 := by
      have low := t.inRange_toNanos
      have high := u.inRange_toNanos
      simp only [InRange] at low high
      omega
    obtain ⟨both, sum'⟩ := Duration.exists_add?_iff.2 short
    exact nomatch sum.symm.trans sum'

/-! ### Measuring -/

theorem since_eq_zero_iff : a.since b = .zero ↔ a ≤ b := by
  rw [← Duration.toNanos_inj, Duration.toNanos_zero, ← Int.natCast_inj, toNanos_since,
    le_iff_toNanos_le]
  omega

/-- What was added can be measured. -/
theorem since_of_after? (moved : a.after? d = .ok u) : u.since a = d := by
  have := after?_eq_ok_iff.1 moved
  rw [← Duration.toNanos_inj, ← Int.natCast_inj, toNanos_since]
  omega

theorem le_of_after? (moved : a.after? d = .ok u) : a ≤ u := by
  have := after?_eq_ok_iff.1 moved
  rw [le_iff_toNanos_le]
  omega

/-- What was measured leads from the earlier instant to the later one. -/
theorem after?_since (le : b ≤ a) : b.after? (a.since b) = .ok a := by
  have := le_iff_toNanos_le.1 le
  rw [after?_eq_ok_iff, toNanos_since]
  omega

/-- Distances add up, from one instant to another and on to a third. -/
theorem add?_since (le : a ≤ b) (le' : b ≤ c) : (c.since b).add? (b.since a) = .ok (c.since a) := by
  have := le_iff_toNanos_le.1 le
  have := le_iff_toNanos_le.1 le'
  rw [Duration.add?_eq_ok_iff, ← Int.natCast_inj, Int.natCast_add]
  simp only [toNanos_since]
  omega

/-! ### Order -/

/-- The order of instants is the order of their distances. -/
theorem compare_eq (a b : Instant) : compare a b = compare a.toNanos b.toNanos := by
  have := a.nanos_lt
  have := b.nanos_lt
  change (compare a.seconds b.seconds).then (compare a.nanos b.nanos) = _
  rcases lt_trichotomy a.seconds b.seconds with lt | eq | gt
  · rw [compare_lt_iff_lt.2 lt, Ordering.lt_then, eq_comm, compare_lt_iff_lt]
    simp only [toNanos]
    omega
  · rw [compare_eq_iff_eq.2 eq, Ordering.eq_then, toNanos, toNanos, eq, ← cmp_eq_compare,
      ← cmp_eq_compare, cmp_add_left]
    exact (Nat.strictMono_cast.cmp_map_eq _ _).symm
  · rw [compare_gt_iff_gt.2 gt, Ordering.gt_then, eq_comm, compare_gt_iff_gt]
    simp only [toNanos]
    omega

instance : Std.LawfulOrderOrd Instant where
  isLE_compare a b := by
    rw [compare_eq, le_iff_toNanos_le, Std.isLE_compare]
  isGE_compare a b := by
    rw [compare_eq, le_iff_toNanos_le, Std.isGE_compare]

instance : Std.IsLinearOrder Instant where
  le_refl a := le_iff_toNanos_le.2 (le_refl _)
  le_trans a b c := by
    simp only [le_iff_toNanos_le]
    exact le_trans
  le_antisymm a b le le' :=
    toNanos_inj.1 (le_antisymm (le_iff_toNanos_le.1 le) (le_iff_toNanos_le.1 le'))
  le_total a b := by
    simp only [le_iff_toNanos_le]
    exact le_total _ _

/-- Moving two instants alike leaves them in order. -/
theorem compare_after? (moved : a.after? d = .ok u) (moved' : b.after? d = .ok v) :
    compare u v = compare a b := by
  rw [compare_eq, compare_eq, after?_eq_ok_iff.1 moved, after?_eq_ok_iff.1 moved',
    ← cmp_eq_compare, ← cmp_eq_compare, cmp_add_right]

/-! ### From an origin -/

theorem toNanos_elapsed (t origin : Instant) :
    ((t.elapsed origin).toNanos : Int) = max 0 (t.toNanos - origin.toNanos) :=
  t.toNanos_since origin

/-- The microseconds are whole, and they wrap around at 64 bits. -/
theorem micros_eq (t origin : Instant) :
    (t.micros origin : Int) =
      max 0 (t.toNanos - origin.toNanos) / 1_000 % 0x1_0000_0000_0000_0000 := by
  rw [← toNanos_elapsed, micros, Duration.toMicros_eq]
  norm_cast

/-- Later instants have more microseconds, as long as these do not wrap around. -/
theorem micros_mono (le : a ≤ b)
    (near : b.toNanos - origin.toNanos < 0x1_0000_0000_0000_0000 * 1_000) :
    a.micros origin ≤ b.micros origin := by
  have := le_iff_toNanos_le.1 le
  rw [← Int.ofNat_le, micros_eq, micros_eq]
  omega

/-! ### All together -/

/-- Times are computed exactly.

    A sum lies at the sum of the distances. There is none exactly if its seconds leave the
    64 bits with a sign, and an instant that is moved in its place becomes the sum or stays
    what it was. Two durations may be added one after the other, in either order, or as
    their sum, and lead to the same instant, which is missing only if it is out of range.

    Measuring undoes adding, and the other way round nothing is measured; the time since an
    instant is zero exactly for instants that are not later, and else leads back from it.
    Times measured one after the other add up. The order is total, and adding a duration
    neither makes nor breaks it.

    The time since an origin is the distance to it, or zero before it. Its microseconds are
    whole and wrap around at 64 bits, so that later instants have more of them until then. -/
theorem arithmetic_exact (a b c origin : Instant) (d e : Duration) :
    ((∀ u, a.after? d = .ok u ↔ u.toNanos = a.toNanos + d.toNanos) ∧
      (∀ error, a.after? d = .error error ↔
        error = .sumOverflow ∧ ¬InRange (a.toNanos + d.toNanos)) ∧
      advance d a =
        match a.after? d with
        | .ok moved => .ok () moved
        | .error error => .error error a) ∧
    ((a.after? d).bind (·.after? e) = (a.after? e).bind (·.after? d) ∧
      (∀ u, (a.after? d).bind (·.after? e) = .ok u ↔ (d.add? e).bind a.after? = .ok u) ∧
      ((∃ u, (a.after? d).bind (·.after? e) = .ok u) ↔
        InRange (a.toNanos + d.toNanos + e.toNanos))) ∧
    ((∀ u, a.after? d = .ok u → u.since a = d ∧ a.since u = .zero) ∧
      (a.since b = .zero ↔ a ≤ b) ∧
      (b ≤ a → b.after? (a.since b) = .ok a) ∧
      (a ≤ b → b ≤ c → (c.since b).add? (b.since a) = .ok (c.since a))) ∧
    (Std.IsLinearOrder Instant ∧ Std.LawfulOrderOrd Instant ∧
      ∀ u v, a.after? d = .ok u → b.after? d = .ok v →
        (u ≤ v ↔ a ≤ b) ∧ compare u v = compare a b) ∧
    ((a.elapsed origin).toNanos = max 0 (a.toNanos - origin.toNanos) ∧
      (a.micros origin : Int) = max 0 (a.toNanos - origin.toNanos) / 1_000 % 2 ^ 64 ∧
      (a ≤ b → b.toNanos - origin.toNanos < 2 ^ 64 * 1_000 →
        a.micros origin ≤ b.micros origin)) := by
  refine ⟨⟨fun u => after?_eq_ok_iff, fun error => ?_, a.advance_eq d⟩, ⟨?_, fun u => ?_, ?_⟩,
    ⟨fun u moved => ⟨since_of_after? moved, since_eq_zero_iff.2 (le_of_after? moved)⟩,
      since_eq_zero_iff, after?_since, add?_since⟩,
    ⟨inferInstance, inferInstance, fun u v moved moved' => ?_⟩,
    ⟨a.toNanos_elapsed origin, a.micros_eq origin, micros_mono⟩⟩
  · rw [after?_eq, atNanos?_eq_error_iff]
  · rw [bind_after?_eq, bind_after?_eq, add_right_comm]
  · rw [bind_after?_eq, atNanos?_eq_ok_iff, bind_add?_eq_ok_iff]
  · rw [bind_after?_eq, exists_atNanos?_iff]
  · have alike := compare_after? moved moved'
    rw [← Std.isLE_compare, alike, Std.isLE_compare]
    exact ⟨Iff.rfl, rfl⟩

/-- The longest duration leads from the first instant to the last one. The instant between
    them is a nanosecond before second zero, and two nanoseconds carry it across. -/
theorem arithmetic_exact_first_to_last :
    ∃ (first between last origin u v : Instant) (longest d : Duration),
      (first.after? longest = .ok last ∧ last.since first = longest ∧
        first.since last = .zero) ∧
      (first ≤ last ∧ first.after? (last.since first) = .ok last) ∧
      (first ≤ between ∧ between ≤ last ∧
        (last.since between).add? (between.since first) = .ok longest) ∧
      (first.after? d = .ok u ∧ between.after? d = .ok v ∧ v.seconds = 0 ∧
        (u ≤ v ↔ first ≤ between) ∧ compare u v = compare first between) ∧
      first ≤ origin ∧ between.toNanos - origin.toNanos < 2 ^ 64 * 1_000 ∧
        first.micros origin ≤ between.micros origin ∧ between.micros origin = 9_749_999 := by
  let first : Instant := ⟨-0x8000_0000_0000_0000, 0, by decide, by decide, by decide⟩
  let between : Instant := ⟨-1, 999_999_999, by decide, by decide, by decide⟩
  let last : Instant := ⟨0x7FFF_FFFF_FFFF_FFFF, 999_999_999, by decide, by decide, by decide⟩
  let origin : Instant := ⟨-10, 250_000_000, by decide, by decide, by decide⟩
  let u : Instant := ⟨-0x8000_0000_0000_0000, 2, by decide, by decide, by decide⟩
  let v : Instant := ⟨0, 1, by decide, by decide, by decide⟩
  let longest : Duration := ⟨0xFFFF_FFFF_FFFF_FFFF, 999_999_999, by decide, by decide⟩
  let d : Duration := ⟨0, 2, by decide, by decide⟩
  obtain ⟨-, -, ⟨measured, -, -, onward⟩, -, -⟩ :=
    arithmetic_exact first between last origin longest d
  obtain ⟨-, -, ⟨-, -, back, -⟩, -, -⟩ := arithmetic_exact last first between origin longest d
  obtain ⟨-, -, -, ⟨-, -, alike⟩, -, -, later⟩ :=
    arithmetic_exact first between last origin d longest
  have ends : first.after? longest = .ok last := by decide
  have across : between.after? d = .ok v := by decide
  have early : first.after? d = .ok u := by decide
  have near : between.toNanos - origin.toNanos < 2 ^ 64 * 1_000 := by decide
  obtain ⟨length, backward⟩ := measured last ends
  exact ⟨first, between, last, origin, u, v, longest, d, ⟨ends, length, backward⟩,
    ⟨by decide, back (by decide)⟩,
    ⟨by decide, by decide, length ▸ onward (by decide) (by decide)⟩,
    ⟨early, across, rfl, alike u v early across⟩,
    by decide, near, later (by decide) near, by decide⟩

end RefCycle.Instant
