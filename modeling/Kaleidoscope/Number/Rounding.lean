/-! Rounding a quotient of natural numbers.

The nearest whole number is taken, and of two equally near ones the even one.
-/

set_option autoImplicit false

namespace Kaleidoscope.Number

def divideToEven (num den : Nat) : Nat :=
  let quotient := num / den
  let rest := num % den
  if 2 * rest < den then quotient
  else if den < 2 * rest then quotient + 1
  else quotient + quotient % 2

theorem divideToEven_mul {den : Nat} (positive : 0 < den) (value : Nat) :
    divideToEven (value * den) den = value := by
  simp [divideToEven, positive]

theorem divideToEven_mul_mul {factor : Nat} (positive : 0 < factor) (num den : Nat) :
    divideToEven (num * factor) (den * factor) = divideToEven num den := by
  have quotient : num * factor / (den * factor) = num / den := Nat.mul_div_mul_right _ _ positive
  have rest : num * factor % (den * factor) = num % den * factor := Nat.mul_mod_mul_right ..
  have double : 2 * (num % den * factor) = 2 * (num % den) * factor := (Nat.mul_assoc ..).symm
  simp only [divideToEven, quotient, rest, double, Nat.mul_lt_mul_right positive]

end Kaleidoscope.Number
