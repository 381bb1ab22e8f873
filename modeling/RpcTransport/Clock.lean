/-!
# Time

Times and durations are whole milliseconds. A duration may be as long as 64 bits of seconds can
tell, while an instant has 63 bits of seconds: adding the two can overflow the clock, and a deadline
that is clamped first cannot.
-/

namespace RpcTransport.Clock

/-- The longest duration. -/
def longest : Nat := (0x10000000000000000 - 1) * 1000 + 999

/-- The first instant that the clock cannot tell. -/
def horizon : Nat := 0x8000000000000000 * 1000

/-- Half of what the clock can tell: before it there is room for a delay of the same length. -/
def midway : Nat := 0x4000000000000000 * 1000

theorem midway_add_midway : midway + midway = horizon := by decide

/-- The instant some time from now, unless the clock overflows. -/
def after? (now delay : Nat) : Option Nat :=
  if now + delay < horizon then some (now + delay) else none

theorem after?_eq_none_iff {now delay : Nat} : after? now delay = none ↔ horizon ≤ now + delay := by
  rw [after?]
  split
  · next hlt => exact iff_of_false nofun (Nat.not_le.mpr hlt)
  · next hle => exact iff_of_true rfl (Nat.not_lt.mp hle)

theorem add_lt_horizon {now delay : Nat} (hnow : now < midway) (hdelay : delay ≤ midway) :
    now + delay < horizon := midway_add_midway ▸ Nat.add_lt_add_of_lt_of_le hnow hdelay

/-- The longest delay a timer is armed for, a year. -/
def longestTimer : Nat := 365 * 24 * 60 * 60 * 1000

theorem longestTimer_le_midway : longestTimer ≤ midway := by decide

/-- A delay that a timer can be armed for. -/
def clamp (delay : Nat) : Nat := min delay longestTimer

/-- **A clamped deadline can be told.** -/
theorem after?_clamp {now : Nat} (hnow : now < midway) (delay : Nat) :
    after? now (clamp delay) = some (now + clamp delay) :=
  if_pos (add_lt_horizon hnow (Nat.le_trans (Nat.min_le_right _ _) longestTimer_le_midway))

end RpcTransport.Clock
