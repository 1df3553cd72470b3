/-
  HardwareAutoscaler.Lib.Chrono
  ─────────────────────────────
  BOUNDED DURATIONS AND DATES — program independent.

  Times and durations are nanoseconds in `Int`.  A duration is built from whole
  seconds within `i64::MAX` milliseconds, and a date stays within the range of
  its calendar; outside of these the operations fail (`none`).

    • `duration`, `DateRange.add` — the two operations,
    • `deadline_isSome_iff` — when both succeed for a deadline,
    • `deadline_nat` — the deadline of a wait.
-/
import Mathlib.Tactic.Linarith

namespace HardwareAutoscaler.Lib

/-- The longest duration, in seconds: `i64::MAX / 1000`. -/
def maxDurationSecs : Int := 9223372036854775

/-- The duration of `n` seconds. -/
def duration (n : Int) : Option Int :=
  if -maxDurationSecs ≤ n ∧ n ≤ maxDurationSecs then some (n * 1000000000) else none

/-- The first and the last date of a calendar. -/
structure DateRange where
  first : Int
  last : Int

namespace DateRange

variable (z : DateRange)

/-- The date `d` after `t`. -/
def add (t d : Int) : Option Int :=
  if z.first ≤ t + d ∧ t + d ≤ z.last then some (t + d) else none

/-- The date `n` seconds after `t`. -/
def deadline (t n : Int) : Option Int := (duration n).bind (z.add t)

variable {z} {t n : Int}

theorem duration_isSome_iff : (duration n).isSome = true ↔
    -maxDurationSecs ≤ n ∧ n ≤ maxDurationSecs := by
  unfold duration
  split
  · rename_i h
    exact ⟨fun _ => h, fun _ => rfl⟩
  · rename_i h
    exact ⟨fun hs => (Bool.false_ne_true hs).elim, fun hn => absurd hn h⟩

theorem duration_eq (h : -maxDurationSecs ≤ n ∧ n ≤ maxDurationSecs) :
    duration n = some (n * 1000000000) := if_pos h

/-- A number of seconds is not too far in the past. -/
theorem duration_nat {k : Nat} (h : k ≤ maxDurationSecs) :
    duration k = some (k * 1000000000) :=
  duration_eq ⟨by unfold maxDurationSecs; omega, h⟩

theorem add_isSome_iff {d : Int} : (z.add t d).isSome = true ↔
    z.first ≤ t + d ∧ t + d ≤ z.last := by
  unfold add
  split
  · rename_i h
    exact ⟨fun _ => h, fun _ => rfl⟩
  · rename_i h
    exact ⟨fun hs => (Bool.false_ne_true hs).elim, fun hn => absurd hn h⟩

theorem add_eq {d : Int} (h : z.first ≤ t + d ∧ t + d ≤ z.last) : z.add t d = some (t + d) :=
  if_pos h

/-- **A deadline can be told** when its wait is a duration and its date exists. -/
theorem deadline_isSome_iff : (z.deadline t n).isSome = true ↔
    (-maxDurationSecs ≤ n ∧ n ≤ maxDurationSecs) ∧
      z.first ≤ t + n * 1000000000 ∧ t + n * 1000000000 ≤ z.last := by
  unfold deadline
  constructor
  · intro h
    have hd : (duration n).isSome = true := by
      cases hn : duration n with
      | some d => rfl
      | none =>
        rw [hn] at h
        cases h
    have hrange := duration_isSome_iff.mp hd
    rw [duration_eq hrange] at h
    exact ⟨hrange, add_isSome_iff.mp h⟩
  · rintro ⟨hrange, hdate⟩
    rw [duration_eq hrange]
    exact add_isSome_iff.mpr hdate

theorem deadline_nat {k : Nat} (h : k ≤ maxDurationSecs)
    (hdate : z.first ≤ t + k * 1000000000 ∧ t + k * 1000000000 ≤ z.last) :
    z.deadline t k = some (t + k * 1000000000) := by
  unfold deadline
  rw [duration_nat h]
  exact add_eq hdate

end DateRange

end HardwareAutoscaler.Lib
