import Mathlib
import RefCycle.Scheduler.Calls
/-!
# Scans are apart in number and in time

A scheduler remembers two numbers and a time, and that is enough to know, at each call,
how many calls and how much time lie behind the last scan. The numbers wrap around, but
their distance does not, as long as there are fewer than 2^32 calls.

## Main definitions

* `Calls.lastDue` — the last call at which a scan was due.

## Main statements

* `readsClock_advance_iff`, `advance_eq_due_iff`, `advance_snd` — what one call does.
* `Calls.scheduler_eq` — what a scheduler remembers after any number of calls.
* `Calls.scans_gated` — when the clock is read and when a scan is due, over all calls.
-/

namespace RefCycle.Scheduler

variable {scheduler : Scheduler} {now : Instant}

/-! ### One call -/

theorem readsClock_advance_iff :
    (scheduler.advance now).1.readsClock = true ↔
      scheduler.threshold < scheduler.tick + 1 - scheduler.lastTick := by
  rw [advance]
  dsimp only
  split
  · rename_i few
    simpa [Verdict.readsClock] using few
  · rename_i many
    split <;> simpa [Verdict.readsClock] using many

theorem advance_eq_due_iff :
    (scheduler.advance now).1 = .due ↔
      scheduler.threshold < scheduler.tick + 1 - scheduler.lastTick ∧
        (scheduler.interval.toNanos : Int) <
          max 0 (now.toNanos - scheduler.lastScan.toNanos) := by
  rw [← now.toNanos_since, Nat.cast_lt, advance]
  dsimp only
  split
  · rename_i few
    simp [UInt32.not_lt.2 few]
  · rename_i many
    split
    · rename_i early
      simp [Nat.not_lt.2 early]
    · rename_i late
      exact iff_of_true rfl ⟨UInt32.not_le.1 many, Nat.lt_of_not_le late⟩

/-- A call is counted, and what is remembered of the last scan changes only if one is due. -/
theorem advance_snd :
    (scheduler.advance now).2 =
      if (scheduler.advance now).1 = .due then
        { scheduler with
          tick := scheduler.tick + 1, lastTick := scheduler.tick + 1, lastScan := now }
      else { scheduler with tick := scheduler.tick + 1 } := by
  rw [advance]
  dsimp only
  split
  · rfl
  · split <;> rfl

/-- Where the clock is not read, it does not matter what it says. -/
theorem advance_congr (unread : (scheduler.advance now).1.readsClock = false) (other : Instant) :
    scheduler.advance other = scheduler.advance now := by
  have few : scheduler.tick + 1 - scheduler.lastTick ≤ scheduler.threshold :=
    UInt32.not_lt.1 (mt readsClock_advance_iff.2 (Bool.eq_false_iff.1 unread))
  rw [advance, advance, if_pos few, if_pos few]

/-! ### Many calls -/

namespace Calls

variable {calls : Calls} {m n : Nat}

/-- The last of the first calls at which a scan was due, or zero if there was none. -/
def lastDue (calls : Calls) (n : Nat) : Nat :=
  Nat.findGreatest (fun k => calls.verdict k = .due) n

theorem lastDue_succ :
    calls.lastDue (n + 1) = if calls.verdict (n + 1) = .due then n + 1 else calls.lastDue n :=
  Nat.findGreatest_succ n

theorem lastDue_le : calls.lastDue n ≤ n :=
  Nat.findGreatest_le n

/-- A scheduler knows the number of calls, the last one at which a scan was due, and what
    the clock read there. -/
theorem scheduler_eq (calls : Calls) (n : Nat) :
    calls.scheduler n =
      { tick := UInt32.ofNat n
        lastTick := UInt32.ofNat (calls.lastDue n)
        lastScan := calls.clock (calls.lastDue n)
        threshold := calls.config.tickThreshold
        interval := calls.config.scanInterval } := by
  induction n with
  | zero => rfl
  | succ n ih =>
    have counted : UInt32.ofNat n + 1 = UInt32.ofNat (n + 1) := (UInt32.ofNat_add n 1).symm
    rw [scheduler, advance_snd, lastDue_succ]
    have same : ((calls.scheduler n).advance (calls.clock (n + 1))).1 = calls.verdict (n + 1) := rfl
    rw [same, ih]
    split <;> simp only [counted]

/-- Numbers of calls wrap around, but their distance does not unless it is too large itself. -/
theorem toNat_distance (le : m ≤ n) (few : n - m < 2 ^ 32) :
    (UInt32.ofNat n - UInt32.ofNat m).toNat = n - m := by
  rw [← UInt32.ofNat_sub le, UInt32.toNat_ofNat_of_lt' few]

theorem threshold_lt_distance_iff (few : n + 1 - calls.lastDue n < 2 ^ 32) :
    calls.config.tickThreshold < UInt32.ofNat n + 1 - UInt32.ofNat (calls.lastDue n) ↔
      calls.config.tickThreshold.toNat < n + 1 - calls.lastDue n := by
  have le : calls.lastDue n ≤ n + 1 := Nat.le_succ_of_le lastDue_le
  have counted : UInt32.ofNat n + 1 = UInt32.ofNat (n + 1) := (UInt32.ofNat_add n 1).symm
  rw [counted, UInt32.lt_iff_toNat_lt, toNat_distance le few]

/-- The clock is read if more calls than the threshold says have passed since a scan was
    due last. -/
theorem readsClock_verdict_iff (few : n + 1 - calls.lastDue n < 2 ^ 32) :
    (calls.verdict (n + 1)).readsClock = true ↔
      calls.config.tickThreshold.toNat < n + 1 - calls.lastDue n := by
  rw [verdict, readsClock_advance_iff, Nat.add_sub_cancel, scheduler_eq]
  exact threshold_lt_distance_iff few

/-- A scan is due if, moreover, the clock reads more than the interval later than it read
    when a scan was due last. -/
theorem verdict_eq_due_iff (few : n + 1 - calls.lastDue n < 2 ^ 32) :
    calls.verdict (n + 1) = .due ↔
      calls.config.tickThreshold.toNat < n + 1 - calls.lastDue n ∧
        (calls.config.scanInterval.toNanos : Int) <
          max 0 ((calls.clock (n + 1)).toNanos - (calls.clock (calls.lastDue n)).toNanos) := by
  rw [verdict, advance_eq_due_iff, Nat.add_sub_cancel, scheduler_eq]
  exact and_congr_left' (threshold_lt_distance_iff few)

/-- Where a scan is not due, the last one stays the last one. -/
theorem lastDue_of_not_due (early : calls.verdict (n + 1) ≠ .due) :
    calls.lastDue (n + 1) = calls.lastDue n := by
  rw [lastDue_succ, if_neg early]

theorem due_lastDue (any : calls.lastDue n ≠ 0) : calls.verdict (calls.lastDue n) = .due :=
  Nat.findGreatest_of_ne_zero rfl any

theorem le_lastDue (le : m ≤ n) (due : calls.verdict m = .due) : m ≤ calls.lastDue n :=
  Nat.le_findGreatest le due

/-- Any two calls at which a scan is due are apart in number and in time. -/
theorem apart_of_due (few : n < 2 ^ 32) (pos : 0 < m) (lt : m < n) (first : calls.verdict m = .due)
    (second : calls.verdict n = .due) :
    calls.config.tickThreshold.toNat < n - m ∧
      (calls.clock m).toNanos + calls.config.scanInterval.toNanos < (calls.clock n).toNanos := by
  -- From the second call back to the last one before it, and on from there.
  induction n using Nat.strong_induction_on with
  | _ n ih =>
    obtain ⟨n, rfl⟩ := Nat.exists_eq_add_of_lt (Nat.zero_lt_of_lt lt)
    rw [Nat.zero_add] at *
    obtain ⟨many, late⟩ := (verdict_eq_due_iff (by omega)).1 second
    have le : m ≤ calls.lastDue n := le_lastDue (Nat.le_of_lt_succ lt) first
    have last_le : calls.lastDue n ≤ n := lastDue_le
    rcases Nat.eq_or_lt_of_le le with eq | before
    · rw [← eq] at many late
      exact ⟨many, by omega⟩
    · have due := due_lastDue (show calls.lastDue n ≠ 0 by omega)
      obtain ⟨-, apart⟩ := ih (calls.lastDue n) (by omega) (by omega) before due
      exact ⟨by omega, by omega⟩

/-- Scans are gated by a number of calls and by a time.

    Of fewer than 2^32 calls, with whatever the clock reads at them, each reads the clock
    exactly if it is more calls than the threshold says behind the last one at which a
    scan was due, and then a scan is due exactly if the reading is later than the one there
    by more than the interval; before the first scan, both are counted from the start.
    Where the clock is not read, it does not matter what it says. So any two calls at
    which a scan is due are more than the threshold and more than the interval apart. A
    call that reads the clock too early is only counted, and the next one reads the clock
    again. And the counter counts the calls. -/
theorem scans_gated (calls : Calls) {count : Nat} (few : count < 2 ^ 32) :
    (∀ n, 0 < n → n ≤ count →
      ((calls.verdict n).readsClock = true ↔
        calls.config.tickThreshold.toNat < n - calls.lastDue (n - 1)) ∧
      (calls.verdict n = .due ↔
        calls.config.tickThreshold.toNat < n - calls.lastDue (n - 1) ∧
          (calls.config.scanInterval.toNanos : Int) <
            max 0 ((calls.clock n).toNanos - (calls.clock (calls.lastDue (n - 1))).toNanos)) ∧
      ((calls.verdict n).readsClock = false → ∀ other,
        (calls.scheduler (n - 1)).advance other =
          (calls.verdict n, calls.scheduler n))) ∧
    (∀ m n, 0 < m → m < n → n ≤ count → calls.verdict m = .due → calls.verdict n = .due →
      calls.config.tickThreshold.toNat < n - m ∧
        (calls.clock m).toNanos + calls.config.scanInterval.toNanos < (calls.clock n).toNanos) ∧
    (∀ n, 0 < n → n < count → calls.verdict n = .early →
      calls.scheduler n = { calls.scheduler (n - 1) with tick := (calls.scheduler n).tick } ∧
      (calls.verdict (n + 1)).readsClock = true) ∧
    ∀ n ≤ count, (calls.scheduler n).tick.toNat = n := by
  refine ⟨fun n pos le => ?_, fun m n pos lt le first second => ?_, fun n pos lt early => ?_,
    fun n le => ?_⟩
  · obtain ⟨n, rfl⟩ := Nat.exists_eq_succ_of_ne_zero (Nat.ne_of_gt pos)
    refine ⟨readsClock_verdict_iff (by omega), verdict_eq_due_iff (by omega), fun unread other => ?_⟩
    exact advance_congr unread other
  · exact apart_of_due (by omega) pos lt first second
  · obtain ⟨n, rfl⟩ := Nat.exists_eq_succ_of_ne_zero (Nat.ne_of_gt pos)
    have notDue : calls.verdict (n + 1) ≠ .due := fun due => nomatch early.symm.trans due
    have same := lastDue_of_not_due notDue
    have read : (calls.verdict (n + 1)).readsClock = true := by rw [early]; rfl
    have many := (readsClock_verdict_iff (by omega)).1 read
    refine ⟨?_, (readsClock_verdict_iff (by omega)).2 ?_⟩
    · show calls.scheduler (n + 1) =
        { calls.scheduler n with tick := (calls.scheduler (n + 1)).tick }
      rw [scheduler_eq calls n, scheduler_eq, same]
    · rw [same]
      omega
  · rw [scheduler_eq]
    exact UInt32.toNat_ofNat_of_lt' (Nat.lt_of_le_of_lt le few)

/-- The clock goes back twice. The second call reads it and is early; the third one reads
    it again and is due, and so is the sixth one, which is measured from there. -/
theorem scans_gated_backward_clock :
    ∃ calls : Calls, 6 < 2 ^ 32 ∧
      (calls.clock 2).toNanos < (calls.clock 0).toNanos ∧ calls.verdict 2 = .early ∧
      (calls.verdict 3).readsClock = true ∧ calls.verdict 3 = .due ∧
      (calls.clock 5).toNanos < (calls.clock 3).toNanos ∧ calls.verdict 6 = .due ∧
      calls.config.tickThreshold.toNat < 6 - 3 ∧
      (calls.clock 3).toNanos + calls.config.scanInterval.toNanos < (calls.clock 6).toNanos ∧
      (calls.scheduler 6).tick.toNat = 6 := by
  let reading (nanos : Nat) : Instant :=
    ⟨0, nanos % 1_000_000_000, by decide, by decide, Nat.mod_lt _ (by decide)⟩
  let readings := [5000, 0, 4000, 6001, 0, 6000, 7002]
  let calls : Calls := ⟨⟨1, .ofMicros 1, false⟩, fun n => reading (readings.getD n 0)⟩
  obtain ⟨-, apart, again, counts⟩ := scans_gated calls (show 6 < 2 ^ 32 by decide)
  have early : calls.verdict 2 = .early := by decide
  have third : calls.verdict 3 = .due := by decide
  have sixth : calls.verdict 6 = .due := by decide
  obtain ⟨many, late⟩ := apart 3 6 (by decide) (by decide) (by decide) third sixth
  exact ⟨calls, by decide, by decide, early, (again 2 (by decide) (by decide) early).2, third,
    by decide, sixth, many, late, counts 6 (by decide)⟩

end Calls

end RefCycle.Scheduler
