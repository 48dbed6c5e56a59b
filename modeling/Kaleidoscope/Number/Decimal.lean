import Kaleidoscope.Number.Rounding

/-! Decimal numbers and the binary64 magnitude next to each.

A magnitude is the number that the sixty-three bits behind a binary64 sign spell. Finite values are
whole multiples of the least positive one, so that all comparisons stay exact.

Main statements: a number that has a magnitude is not rounded, and a zero at the end of the digits
may be dropped.
-/

set_option autoImplicit false

namespace Kaleidoscope.Number

/-- The least positive number is `2 ^ -precision`, and `precision` decimal places write any finite
number exactly. -/
def precision : Nat := 1074

-- Between two powers of two lie `2 ^ 52` magnitudes.
def perScale : Nat := 0x10000000000000

-- Magnitudes beyond that of infinity spell no number.
def infinity : Nat := 0x7FF * perScale

/-- What a finite magnitude stands for, counted in least positive numbers. -/
def units (magnitude : Nat) : Nat :=
  let scale := magnitude / perScale - 1
  (magnitude - scale * perScale) <<< scale

-- A significand that rounds up to the next power of two carries into the scale by itself, and a
-- scale beyond the last one is cut down to infinity.
-- Of two magnitudes that are equally near to the quotient the even one is taken.
def nearest (num den : Nat) : Nat :=
  let scaled := num <<< precision
  let scale := (scaled / den).log2 - 52
  min infinity (scale * perScale + divideToEven scaled (den <<< scale))

theorem nearest_mul_mul {factor : Nat} (positive : 0 < factor) (num den : Nat) :
    nearest (num * factor) (den * factor) = nearest num den := by
  have shifted (value count : Nat) : (value * factor) <<< count = value <<< count * factor := by
    rw [Nat.shiftLeft_eq, Nat.shiftLeft_eq, Nat.mul_right_comm]
  simp only [nearest, shifted, Nat.mul_div_mul_right _ _ positive, divideToEven_mul_mul positive]

theorem units_log2 (magnitude : Nat) :
    (units magnitude).log2 - 52 = magnitude / perScale - 1 := by
  simp only [units, perScale]
  by_cases small : magnitude < 2 ^ 53
  · have scale : magnitude / 0x10000000000000 - 1 = 0 := by omega
    have bound : magnitude.log2 < 53 := by
      by_cases zero : magnitude = 0
      · simp [zero]
      · exact (Nat.log2_lt zero).mpr small
    simp only [scale, Nat.zero_mul, Nat.sub_zero, Nat.shiftLeft_zero]
    omega
  · generalize leading : magnitude - (magnitude / 0x10000000000000 - 1) * 0x10000000000000 = digits
    have nonzero : digits ≠ 0 := by omega
    have low : 2 ^ 52 ≤ digits := by omega
    have high : digits < 2 ^ 53 := by omega
    have product : (digits <<< (magnitude / 0x10000000000000 - 1)).log2 =
        52 + (magnitude / 0x10000000000000 - 1) := by
      rw [Nat.shiftLeft_eq]
      refine (Nat.log2_eq_iff (Nat.mul_ne_zero nonzero (by simp))).mpr ⟨?_, ?_⟩
      · rw [Nat.pow_add]
        exact Nat.mul_le_mul_right _ low
      · rw [Nat.add_right_comm, Nat.pow_add]
        exact Nat.mul_lt_mul_of_pos_right high (Nat.two_pow_pos _)
    omega

theorem nearest_units {magnitude : Nat} (valid : magnitude ≤ infinity) :
    nearest (units magnitude) (1 <<< precision) = magnitude := by
  have positive (count : Nat) : 0 < 1 <<< count := by
    rw [Nat.one_shiftLeft]
    exact Nat.two_pow_pos count
  have quotient : units magnitude <<< precision / 1 <<< precision = units magnitude := by
    rw [Nat.shiftLeft_eq, ← Nat.one_shiftLeft, Nat.mul_div_cancel _ (positive precision)]
  have aligned : units magnitude <<< precision =
      (magnitude - (magnitude / perScale - 1) * perScale) *
        1 <<< precision <<< (magnitude / perScale - 1) := by
    simp only [units, Nat.shiftLeft_eq, Nat.one_mul]
    rw [Nat.mul_assoc, Nat.mul_comm (2 ^ (magnitude / perScale - 1))]
  have divisor : 0 < 1 <<< precision <<< (magnitude / perScale - 1) := by
    rw [← Nat.shiftLeft_add]
    exact positive _
  simp only [nearest, quotient, units_log2]
  rw [aligned, divideToEven_mul divisor]
  simp only [infinity, perScale] at valid ⊢
  omega

/-- The number `digits * 10 ^ exponent`. -/
structure Decimal where
  digits : Nat
  exponent : Int
  deriving DecidableEq, Repr

namespace Decimal

def magnitude (decimal : Decimal) : Nat :=
  match decimal.exponent with
  | .ofNat exponent => nearest (decimal.digits * Nat.pow 10 exponent) 1
  | .negSucc exponent => nearest decimal.digits (Nat.pow 10 (exponent + 1))

theorem magnitude_neg (digits : Nat) {places : Nat} (positive : 0 < places) :
    magnitude ⟨digits, -(places : Int)⟩ = nearest digits (Nat.pow 10 places) := by
  cases places with
  | zero => exact absurd positive (Nat.lt_irrefl 0)
  | succ places => rfl

theorem magnitude_mul_ten (digits : Nat) (exponent : Int) :
    magnitude ⟨digits * 10, exponent⟩ = magnitude ⟨digits, exponent + 1⟩ := by
  cases exponent with
  | ofNat exponent =>
    show nearest (digits * 10 * Nat.pow 10 exponent) 1 =
      nearest (digits * (Nat.pow 10 exponent * 10)) 1
    rw [Nat.mul_assoc, Nat.mul_comm 10]
  | negSucc exponent =>
    cases exponent with
    | zero =>
      show nearest (digits * 10) (1 * 10) = nearest (digits * 1) 1
      rw [nearest_mul_mul (by decide), Nat.mul_one]
    | succ exponent => exact nearest_mul_mul (by decide) digits (Nat.pow 10 (exponent + 1))

theorem magnitude_zero (exponent : Int) : magnitude ⟨0, exponent⟩ = 0 := by
  have nothing (den : Nat) : nearest 0 den = 0 := by
    simp [nearest, divideToEven, Nat.shiftLeft_eq]
  cases exponent <;> simp [magnitude, nothing]

def trimmed (decimal : Decimal) : Decimal :=
  if decimal.digits = 0 then ⟨0, 0⟩
  else if decimal.digits % 10 = 0 then trimmed ⟨decimal.digits / 10, decimal.exponent + 1⟩
  else decimal
termination_by decimal.digits

theorem magnitude_trimmed (decimal : Decimal) : decimal.trimmed.magnitude = decimal.magnitude := by
  fun_induction trimmed decimal with
  | case1 decimal zero =>
    obtain ⟨digits, exponent⟩ := decimal
    subst zero
    rw [magnitude_zero, magnitude_zero]
  | case2 decimal nonzero divisible ih =>
    obtain ⟨digits, exponent⟩ := decimal
    rw [ih, ← magnitude_mul_ten, Nat.div_mul_cancel (Nat.dvd_of_mod_eq_zero divisible)]
  | case3 => rfl

end Decimal

end Kaleidoscope.Number
