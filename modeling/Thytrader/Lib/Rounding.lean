import Mathlib.Data.Rat.Floor
import Mathlib.Data.Int.Log
import Mathlib.Algebra.Order.Field.Rat
import Mathlib.Algebra.Field.Rat
import Mathlib.Tactic.Linarith

/-!
# Rounding to significant digits

A number format of `digits` significant digits in `base` keeps of a value its first digits, rounded
half even. The exponent is unbounded: nothing here overflows or underflows.

* `abs_roundTo_sub_le` — the error is at most half a unit of the last place;
* `roundTo_lt` — so values far enough apart for their size stay apart (`place_le_of_lt` bounds
  the last place of every value below a power of the base).
-/

namespace Thytrader.Lib

/-- The nearest integer, a tie to the even one. -/
def halfEven (x : ℚ) : ℤ :=
  if Int.fract x = 1 / 2 ∧ ⌊x⌋ % 2 = 0 then ⌊x⌋ else ⌊x + 1 / 2⌋

variable (base digits : Nat) {x y : ℚ}

/-- The unit of the last digit kept of `x`. -/
def lastPlace (x : ℚ) : ℚ := base ^ (Int.log base |x| + 1 - digits)

/-- `x` rounded half even to a number of significant digits. -/
def roundTo (x : ℚ) : ℚ := halfEven (x / lastPlace base digits x) * lastPlace base digits x

theorem abs_halfEven_sub_le (x : ℚ) : |(halfEven x : ℚ) - x| ≤ 1 / 2 := by
  unfold halfEven
  split
  · next htie =>
    have hsplit := Int.floor_add_fract x
    rw [abs_le]
    constructor
    · linarith [htie.1]
    · linarith [htie.1]
  · have hle := Int.floor_le (x + 1 / 2)
    have hlt := Int.lt_floor_add_one (x + 1 / 2)
    rw [abs_le]
    constructor
    · linarith
    · linarith

variable {base digits} (hbase : 1 < base)
include hbase

theorem lastPlace_pos (x : ℚ) : 0 < lastPlace base digits x :=
  zpow_pos (by exact_mod_cast hbase.pos) _

theorem abs_roundTo_sub_le (x : ℚ) :
    |roundTo base digits x - x| ≤ lastPlace base digits x / 2 := by
  have hplace : 0 < lastPlace base digits x := lastPlace_pos hbase x
  have hscaled : roundTo base digits x - x =
      (halfEven (x / lastPlace base digits x) - x / lastPlace base digits x) *
        lastPlace base digits x := by
    rw [sub_mul, div_mul_cancel₀ _ hplace.ne']
    rfl
  rw [hscaled, abs_mul, abs_of_pos hplace]
  calc _ ≤ 1 / 2 * lastPlace base digits x :=
        mul_le_mul_of_nonneg_right (abs_halfEven_sub_le _) hplace.le
    _ = _ := by ring

/-- A value below a power of the base is kept to at least that power's last place. -/
theorem place_le_of_lt {n : Nat} (h : |x| < (base : ℚ) ^ n) (hn : 0 < n) :
    lastPlace base digits x ≤ (base : ℚ) ^ ((n : ℤ) - digits) := by
  have hone : (1 : ℚ) ≤ base := by exact_mod_cast hbase.le
  refine zpow_le_zpow_right₀ hone ?_
  have hlog : Int.log base |x| < n := by
    obtain hzero | hpos := (abs_nonneg x).eq_or_lt
    · rw [← hzero, Int.log_zero_right]
      exact_mod_cast hn
    · exact (Int.lt_zpow_iff_log_lt hbase hpos).mp (by exact_mod_cast h)
  omega

theorem roundTo_lt
    (h : lastPlace base digits x / 2 + lastPlace base digits y / 2 < y - x) :
    roundTo base digits x < roundTo base digits y := by
  have hx : roundTo base digits x - x ≤ lastPlace base digits x / 2 :=
    (abs_le.mp (abs_roundTo_sub_le hbase x)).2
  have hy : -(lastPlace base digits y / 2) ≤ roundTo base digits y - y :=
    (abs_le.mp (abs_roundTo_sub_le hbase y)).1
  linarith

end Thytrader.Lib
