/-!
# The sizes of semaphores and queues

A semaphore counts its permits in a word and keeps three bits of it for itself, so it cannot have
more permits than the other bits can count. A queue with a bound has a permit for each place, and
one place at the least. Who asks for another size gets nothing at all.
-/

namespace RpcTransport.Semaphore

/-- The most permits that a semaphore can have. -/
def most : Nat := 0x2000000000000000 - 1

/-- The permits of a new semaphore. -/
def permits? (n : Nat) : Option Nat := if n ≤ most then some n else none

theorem permits?_eq_none_iff {n : Nat} : permits? n = none ↔ most < n := by
  rw [permits?]
  split
  · next hle => exact iff_of_false nofun (Nat.not_lt.mpr hle)
  · next hlt => exact iff_of_true rfl (Nat.not_le.mp hlt)

/-- The places of a new queue. -/
def places? (n : Nat) : Option Nat := if n = 0 then none else permits? n

theorem places?_eq_some_iff {n places : Nat} :
    places? n = some places ↔ places = n ∧ 1 ≤ n ∧ n ≤ most := by
  rw [places?, permits?]
  split
  · next hzero => exact iff_of_false nofun fun h ↦ Nat.one_le_iff_ne_zero.mp h.2.1 hzero
  · next hpos =>
    split
    · next hle =>
      rw [Option.some.injEq, eq_comm]
      exact (and_iff_left ⟨Nat.one_le_iff_ne_zero.mpr hpos, hle⟩).symm
    · next hlt => exact iff_of_false nofun fun h ↦ hlt h.2.2

/-- Where at least one place is asked for, only the limit of a semaphore counts. -/
theorem places?_max_one_eq_none_iff {n : Nat} : places? (max n 1) = none ↔ most < n := by
  rw [places?, if_neg (Nat.ne_of_gt (Nat.le_max_right n 1)), permits?_eq_none_iff, most]
  omega

end RpcTransport.Semaphore
