import Mathlib.Order.Bounds.Basic
import Mathlib.Order.MinMax
import SocketLoop.Settings

/-! Poll timeouts in whole milliseconds. A timeout is cut to microseconds before it is rounded up, so
what it reaches beyond a whole millisecond counts from one microsecond on. -/
namespace SocketLoop.Settings

/-- The whole numbers of milliseconds that are not below the poll timeout, and all those that are not
below the largest signed word. -/
def enough (settings : Settings) : Set Nat :=
  {millis | settings.pollTimeout.total ≤ millis * 1000000 ∨ maxInt32 ≤ millis}

/-- The poll waits for the smallest whole number of milliseconds that is not below the timeout, and
at most for the largest signed word. -/
def RoundsUp (settings : Settings) : Prop := IsLeast settings.enough settings.pollMillis

theorem pollMillis_le_iff (settings : Settings) (millis : Nat) : settings.pollMillis ≤ millis ↔
    settings.pollTimeout.micros ≤ millis * 1000 ∨ maxInt32 ≤ millis := by
  rw [pollMillis, min_le_iff]
  omega

/-- A poll never waits for longer than it has to. -/
theorem pollMillis_lower (settings : Settings) :
    settings.pollMillis ∈ lowerBounds settings.enough := by
  intro millis enough
  refine (settings.pollMillis_le_iff millis).mpr (enough.imp_left fun covered => ?_)
  rw [Duration.micros]
  omega

theorem roundsUp_iff_enough (settings : Settings) :
    settings.RoundsUp ↔ settings.pollMillis ∈ settings.enough :=
  and_iff_left settings.pollMillis_lower

/-- The part of a timeout beyond its whole milliseconds is heard if it is a microsecond at least, or
if the timeout is too long anyway. -/
theorem enough_iff (settings : Settings) : settings.pollMillis ∈ settings.enough ↔
    settings.pollTimeout.total % 1000000 = 0 ∨ 1000 ≤ settings.pollTimeout.total % 1000000 ∨
      maxInt32 * 1000000 ≤ settings.pollTimeout.total := by
  simp only [enough, Set.mem_ofPred_eq, pollMillis, Duration.micros, maxInt32]
  omega

theorem enough_succ (settings : Settings) : settings.pollMillis + 1 ∈ settings.enough := by
  simp only [enough, Set.mem_ofPred_eq, pollMillis, Duration.micros, maxInt32]
  omega

theorem pollMillis_mono (settings other : Settings)
    (shorter : settings.pollTimeout.total ≤ other.pollTimeout.total) :
    settings.pollMillis ≤ other.pollMillis := by
  rw [pollMillis_le_iff]
  refine ((other.pollMillis_le_iff other.pollMillis).mp (Nat.le_refl _)).imp_left fun covered => ?_
  exact (Nat.div_le_div_right shorter).trans covered

/-- Rounding up goes wrong for exactly those timeouts that reach less than a microsecond beyond a
whole number of milliseconds, and by one millisecond. So the poll does not wait at all for exactly
the timeouts below one microsecond. A longer timeout never gives a shorter wait. -/
theorem roundsUp_iff (settings : Settings) :
    (settings.RoundsUp ↔ settings.pollTimeout.total % 1000000 = 0 ∨
      1000 ≤ settings.pollTimeout.total % 1000000 ∨
      maxInt32 * 1000000 ≤ settings.pollTimeout.total) ∧
    (¬ settings.RoundsUp → IsLeast settings.enough (settings.pollMillis + 1)) ∧
    (settings.pollMillis = 0 ↔ settings.pollTimeout.total < 1000) ∧
    ∀ other : Settings, settings.pollTimeout.total ≤ other.pollTimeout.total →
      settings.pollMillis ≤ other.pollMillis := by
  refine ⟨?_, ?_, ?_, settings.pollMillis_mono⟩
  · rw [roundsUp_iff_enough, enough_iff]
  · intro early
    rw [roundsUp_iff_enough] at early
    refine ⟨settings.enough_succ, fun millis enough => ?_⟩
    have least := settings.pollMillis_lower enough
    have apart : settings.pollMillis ≠ millis := fun same => early (same ▸ enough)
    omega
  · rw [← Nat.le_zero, pollMillis_le_iff, Duration.micros, maxInt32]
    omega

/-- A timeout of one nanosecond more than two milliseconds is polled for two of them, one of a
microsecond more for three. -/
theorem roundsUp_iff_beyond_a_millisecond :
    let early : Settings := { pollTimeout := { seconds := 0, nanos := 2000001 } }
    let late : Settings := { pollTimeout := { seconds := 0, nanos := 2001000 } }
    ¬ early.RoundsUp ∧ IsLeast early.enough 3 ∧ late.RoundsUp ∧
      early.pollMillis ≤ late.pollMillis := by
  intro early late
  obtain ⟨exact, next, -, mono⟩ := early.roundsUp_iff
  have wrong : ¬ early.RoundsUp := exact.not.mpr (by decide)
  have least := next wrong
  rw [show early.pollMillis = 2 by decide] at least
  exact ⟨wrong, least, late.roundsUp_iff.1.mpr (by decide), mono late (by decide)⟩

/-- A timeout that is not zero, and a poll that does not wait. -/
theorem poll_without_wait :
    let settings : Settings := { pollTimeout := { seconds := 0, nanos := 1 } }
    settings.pollTimeout ≠ Duration.ofSeconds 0 ∧ settings.pollMillis = 0 ∧ ¬ settings.RoundsUp := by
  intro settings
  refine ⟨by decide, by decide, ?_⟩
  rw [roundsUp_iff_enough, enough_iff]
  decide

end SocketLoop.Settings
