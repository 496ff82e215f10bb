import Mathlib

namespace TokenFactory.Go

/-! Rounding of exact rationals to integers. -/

/-- `decimal.IntPart`, and the conversion of a float to an integer. -/
def intPart (value : Rat) : Int := if 0 ≤ value then value.floor else value.ceil

@[simp] theorem intPart_intCast (value : Int) : intPart value = value := by
  unfold intPart
  split <;> simp

/-- `math.Round` and `decimal.Round(0)`: halves go away from zero. -/
def mathRound (value : Rat) : Int := intPart (if 0 ≤ value then value + 1 / 2 else value - 1 / 2)

@[simp] theorem mathRound_zero : mathRound 0 = 0 := by decide +kernel

theorem mathRound_nonneg {value : Rat} (nonnegative : 0 ≤ value) : 0 ≤ mathRound value := by
  unfold mathRound intPart
  rw [if_pos nonnegative, if_pos (by linarith), Rat.le_floor_iff]
  linarith

theorem intPart_eq_zero (value : Rat) : intPart value = 0 ↔ |value| < 1 := by
  unfold intPart
  split_ifs with nonnegative
  · rw [abs_of_nonneg nonnegative]
    exact Int.floor_eq_zero_iff.trans ⟨fun inside => inside.2, fun below => ⟨nonnegative, below⟩⟩
  · rw [abs_of_neg (not_le.mp nonnegative), neg_lt, ← Int.cast_one, ← Int.cast_neg, ← Rat.lt_ceil_iff]
    have := Rat.ceil_le_iff.mpr (show value ≤ ((0 : Int) : Rat) by simpa using (not_le.mp nonnegative).le)
    omega

theorem mathRound_eq_zero (value : Rat) : mathRound value = 0 ↔ |value| < 1 / 2 := by
  rw [mathRound, intPart_eq_zero]
  split_ifs with nonnegative
  · rw [abs_of_nonneg nonnegative, abs_of_nonneg (by linarith)]
    constructor <;> intro <;> linarith
  · have negative := not_le.mp nonnegative
    rw [abs_of_neg negative, abs_of_neg (by linarith)]
    constructor <;> intro <;> linarith

/-! Floats, as the exact rationals that they are. The exponent has no bounds. -/

/-- A float as an `int`, as on amd64: what is out of range becomes the least integer. -/
def toInt64 (value : Rat) : Int :=
  if -2 ^ 63 ≤ intPart value ∧ intPart value < 2 ^ 63 then intPart value else -2 ^ 63

/-- The nearest integer; halves go to the even one. -/
def roundEven (value : Rat) : Int :=
  let below := value.floor
  if value - below < 1 / 2 then below
  else if 1 / 2 < value - below then below + 1
  else if below % 2 = 0 then below else below + 1

/-- The nearest number with 53 bits. -/
def float64 (value : Rat) : Rat :=
  let unit : Rat := 2 ^ (Int.log 2 |value| - 52)
  roundEven (value / unit) * unit

@[simp] theorem roundEven_intCast (value : Int) : roundEven value = value := by
  simp [roundEven]

theorem floor_le_roundEven (value : Rat) : value.floor ≤ roundEven value := by
  unfold roundEven
  dsimp only
  split_ifs <;> omega

theorem float64_intCast {value : Int} (small : |value| < 2 ^ 53) : float64 value = value := by
  have exponent : Int.log 2 |(value : Rat)| - 52 ≤ 0 := by
    rcases eq_or_ne value 0 with rfl | filled
    · simp
    · have below : |(value : Rat)| < (2 : Nat) ^ (53 : Int) := by exact_mod_cast small
      have := (Int.lt_zpow_iff_log_lt (by decide) (abs_pos.mpr (Int.cast_ne_zero.mpr filled))).mp below
      omega
  obtain ⟨places, shift⟩ := Int.eq_ofNat_of_zero_le (neg_nonneg.mpr exponent)
  have scaled : (value : Rat) / 2 ^ (Int.log 2 |(value : Rat)| - 52) = ((value * 2 ^ places : Int) : Rat) := by
    rw [← neg_neg (Int.log 2 |(value : Rat)| - 52), shift, zpow_neg, zpow_natCast, div_inv_eq_mul]
    push_cast
    rfl
  simp only [float64, scaled, roundEven_intCast]
  rw [← scaled, div_mul_cancel₀ _ (by positivity)]

theorem float64_pos {value : Rat} (positive : 0 < value) : 0 < float64 value := by
  have unit : (2 : Rat) ^ (Int.log 2 |value| - 52) ≤ value := by
    calc (2 : Rat) ^ (Int.log 2 |value| - 52) ≤ 2 ^ Int.log 2 |value| :=
          zpow_le_zpow_right₀ (by norm_num) (by omega)
      _ ≤ value := by
        rw [abs_of_pos positive]
        exact_mod_cast Int.zpow_log_le_self (by decide) positive
  have whole : 1 ≤ roundEven (value / 2 ^ (Int.log 2 |value| - 52)) := by
    refine le_trans ?_ (floor_le_roundEven _)
    rw [Rat.le_floor_iff, Int.cast_one, one_le_div₀ (by positivity)]
    exact unit
  unfold float64
  positivity

theorem toInt64_intCast {value : Int} (small : |value| < 2 ^ 53) : toInt64 value = value := by
  rw [toInt64, intPart_intCast, if_pos (by rw [abs_lt] at small; omega)]

end TokenFactory.Go
