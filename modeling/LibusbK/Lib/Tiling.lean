import Mathlib.Algebra.Order.Floor.Div
import Mathlib.Data.List.Basic

/-!
# Tilings of an interval

A tile is an offset and a length; a list of tiles covers an interval of the
natural numbers when each one begins where the one before it ends, the first at
the start of the interval and the last one ending at its end.

## Main definitions

* `Tiles` — a list of tiles covers an interval.

## Main results

* `ceilDiv_sub_min` — taking a tile of at most `limit` off an interval takes one
  off the number of tiles it needs.
-/

namespace Tiling

/-- The tiles `ts` are the interval from `a` to `b`, in order. -/
inductive Tiles : ℕ → ℕ → List (ℕ × ℕ) → Prop
  | nil (a : ℕ) : Tiles a a []
  | cons (a : ℕ) {n b : ℕ} {ts : List (ℕ × ℕ)} (h : Tiles (a + n) b ts) :
      Tiles a b ((a, n) :: ts)

/-- A longest tile of at most `limit`, taken off an interval that is not empty,
leaves one tile less to be taken. -/
theorem ceilDiv_sub_min {a b limit : ℕ} (hlimit : 0 < limit) (hab : a < b) :
    (b - a) ⌈/⌉ limit = (b - (a + min (b - a) limit)) ⌈/⌉ limit + 1 := by
  simp only [Nat.ceilDiv_eq_add_pred_div]
  rcases le_total (b - a) limit with hle | hle
  · have hrest : b - (a + min (b - a) limit) + limit - 1 = limit - 1 := by omega
    have hone : b - a + limit - 1 = b - a - 1 + limit := by omega
    rw [hrest, hone, Nat.add_div_right _ hlimit, Nat.div_eq_of_lt (by omega),
      Nat.div_eq_of_lt (by omega)]
  · have hmore : b - a + limit - 1 = b - (a + min (b - a) limit) + limit - 1 + limit := by omega
    rw [hmore, Nat.add_div_right _ hlimit]

end Tiling
