import Mathlib.Algebra.Order.Group.Nat

namespace WrappingClock

variable {period unit t u k : ℕ}

/-- A counter that starts again at 0 after `period` ticks, read in units of `unit` ticks. -/
def read (period unit t : ℕ) : ℕ := t % period / unit

/-- In one turn of the counter the readings tell how much time has passed. -/
theorem read_add_le (hturn : t / period = u / period) (hunit : 0 < unit)
    (h : t + k * unit ≤ u) : read period unit t + k ≤ read period unit u := by
  have ht := Nat.div_add_mod t period
  have hu := Nat.div_add_mod u period
  rw [← hturn] at hu
  have hmod : t % period + k * unit ≤ u % period := by omega
  calc read period unit t + k = (t % period + k * unit) / unit :=
        (Nat.add_mul_div_right _ _ hunit).symm
    _ ≤ read period unit u := Nat.div_le_div_right hmod

/-- After a wrap the counter stays behind for a whole turn. -/
theorem read_le_of_wrapped (unit : ℕ) (hturn : t / period ≠ u / period) (hle : t ≤ u)
    (h : u ≤ t + period) : read period unit u ≤ read period unit t := by
  have ht := Nat.div_add_mod t period
  have hu := Nat.div_add_mod u period
  have hlt : t / period < u / period := lt_of_le_of_ne (Nat.div_le_div_right hle) hturn
  have hnext : period * (t / period) + period ≤ period * (u / period) :=
    Nat.mul_le_mul_left period hlt
  have hmod : u % period ≤ t % period := by omega
  exact Nat.div_le_div_right hmod

theorem add_lt_read_iff (hunit : 0 < unit) (hlow : t + (k + 1) * unit ≤ u)
    (hhigh : u ≤ t + period) :
    read period unit t + k < read period unit u ↔ t / period = u / period := by
  constructor
  · intro hlt
    by_contra hturn
    have hle := read_le_of_wrapped unit hturn (Nat.le_of_add_right_le hlow) hhigh
    omega
  · intro hturn
    exact read_add_le hturn hunit hlow

end WrappingClock
