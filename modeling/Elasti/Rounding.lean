import Mathlib

/- Rounding to a nearest point of a grid, over any ordered group, and the grid of the finite
   binary64 numbers. Which of two nearest points is taken is left open: comparisons with a
   point of the grid do not depend on it. -/
namespace Rounding

section Grid
variable {α : Type} [AddCommGroup α] [LinearOrder α] [IsOrderedAddMonoid α]
  {grid : Set α} {x y r : α}

def Nearest (grid : Set α) (x r : α) : Prop :=
  r ∈ grid ∧ ∀ y ∈ grid, |x - r| ≤ |x - y|

theorem nearest_le (near : Nearest grid x r) (point : y ∈ grid) (below : x ≤ y) : r ≤ y := by
  by_contra above
  have farther := near.2 y point
  have right : x < r := lt_of_le_of_lt below (not_le.mp above)
  rw [abs_sub_comm x r, abs_of_pos (sub_pos.mpr right), abs_sub_comm x y,
    abs_of_nonneg (sub_nonneg.mpr below)] at farther
  exact above ((sub_le_sub_iff_right x).mp farther)

theorem le_nearest (near : Nearest grid x r) (point : y ∈ grid) (above : y ≤ x) : y ≤ r := by
  by_contra below
  have farther := near.2 y point
  have left : r < x := lt_of_lt_of_le (not_le.mp below) above
  rw [abs_of_pos (sub_pos.mpr left), abs_of_nonneg (sub_nonneg.mpr above)] at farther
  exact below ((sub_le_sub_iff_left x).mp farther)

theorem nearest_self (near : Nearest grid x r) (point : x ∈ grid) : r = x :=
  le_antisymm (nearest_le near point le_rfl) (le_nearest near point le_rfl)

theorem nearest_lt_iff (near : Nearest grid x r) (point : y ∈ grid) : r < y ↔ x < y ∧ r ≠ y := by
  constructor
  · intro less
    refine ⟨?_, less.ne⟩
    by_contra above
    exact absurd (le_nearest near point (not_lt.mp above)) (not_le.mpr less)
  · rintro ⟨below, other⟩
    exact lt_of_le_of_ne (nearest_le near point below.le) other

end Grid

/-- The finite binary64 numbers: a 53-bit integer and a power of two. -/
def binary64 : Set ℚ :=
  {x | ∃ m e : ℤ, |m| < 2 ^ 53 ∧ -1074 ≤ e ∧ e ≤ 971 ∧ x = m * 2 ^ e}

def overflow : ℚ := 2 ^ 1024 - 2 ^ 970

theorem binary64_int {n : ℤ} (small : |n| < 2 ^ 53) : (n : ℚ) ∈ binary64 :=
  ⟨n, 0, small, by decide, by decide, by simp⟩

theorem greatest_lt_overflow : ((2 : ℚ) ^ 53 - 1) * 2 ^ 971 < overflow := by
  have unit : (0 : ℚ) < 2 ^ 970 := pow_pos (by norm_num) 970
  have double : (2 : ℚ) ^ 971 = 2 * 2 ^ 970 := pow_succ' 2 970
  have whole : (2 : ℚ) ^ 1024 = 2 ^ 54 * 2 ^ 970 := pow_add 2 54 970
  unfold overflow
  rw [double, whole]
  generalize (2 : ℚ) ^ 970 = u at unit
  linarith

theorem binary64_lt_overflow {x : ℚ} (float : x ∈ binary64) : |x| < overflow := by
  obtain ⟨m, e, bits, _, high, rfl⟩ := float
  have mantissa : |(m : ℚ)| ≤ 2 ^ 53 - 1 := by
    have whole : |m| ≤ 2 ^ 53 - 1 := by omega
    exact_mod_cast whole
  have power : (2 : ℚ) ^ e ≤ 2 ^ 971 := by
    rw [← zpow_natCast]
    exact zpow_le_zpow_right₀ (by norm_num) high
  have positive : (0 : ℚ) < 2 ^ e := zpow_pos (by norm_num) e
  calc |(m : ℚ) * 2 ^ e| = |(m : ℚ)| * 2 ^ e := by rw [abs_mul, abs_of_pos positive]
    _ ≤ (2 ^ 53 - 1) * 2 ^ 971 := mul_le_mul mantissa power positive.le (by norm_num)
    _ < overflow := greatest_lt_overflow

end Rounding
