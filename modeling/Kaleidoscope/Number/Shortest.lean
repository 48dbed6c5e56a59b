import Kaleidoscope.Number.Decimal

/-! The shortest decimal that reads back as a given magnitude.

Grids of growing fineness are tried in turn. On each only the two neighbours of the exact value
matter; the finest grid holds that value itself, so the search cannot fail.

Main statement: the decimal that is found reads back.
-/

set_option autoImplicit false

namespace Kaleidoscope.Number

def exact (magnitude : Nat) : Decimal := ⟨units magnitude * Nat.pow 5 precision, -(precision : Int)⟩

theorem magnitude_exact {magnitude : Nat} (valid : magnitude ≤ infinity) :
    (exact magnitude).magnitude = magnitude := by
  have split (places : Nat) : Nat.pow 10 places = 1 <<< places * Nat.pow 5 places := by
    rw [Nat.one_shiftLeft]
    exact Nat.mul_pow 2 5 places
  have positive (places : Nat) : 0 < Nat.pow 5 places := Nat.pow_pos (Nat.zero_lt_succ 4)
  calc (exact magnitude).magnitude
    _ = nearest (units magnitude * Nat.pow 5 precision) (Nat.pow 10 precision) :=
      Decimal.magnitude_neg _ (by decide)
    _ = nearest (units magnitude * Nat.pow 5 precision) (1 <<< precision * Nat.pow 5 precision) :=
      congrArg _ (split precision)
    _ = nearest (units magnitude) (1 <<< precision) := nearest_mul_mul (positive precision) _ _
    _ = magnitude := nearest_units valid

/-- Search the grids that leave out `dropped` digits of the exact value or fewer. Of two hits on a
grid the nearer one counts, and the larger one if both are equally near. -/
def shortestWithin (magnitude : Nat) (value : Decimal) : Nat → Decimal
  | 0 => value
  | dropped + 1 =>
      let grid := Nat.pow 10 (dropped + 1)
      let below : Decimal := ⟨value.digits / grid, value.exponent + (dropped + 1 : Nat)⟩
      let above : Decimal := ⟨below.digits + 1, below.exponent⟩
      let reachesAbove := above.magnitude = magnitude
      if below.magnitude = magnitude ∧ (2 * (value.digits % grid) < grid ∨ ¬ reachesAbove) then below
      else if reachesAbove then above
      else shortestWithin magnitude value dropped

theorem magnitude_shortestWithin {magnitude : Nat} {value : Decimal}
    (reads : value.magnitude = magnitude) (dropped : Nat) :
    (shortestWithin magnitude value dropped).magnitude = magnitude := by
  induction dropped with
  | zero => exact reads
  | succ dropped ih =>
    simp only [shortestWithin]
    split
    · next hit => exact hit.1
    · split
      · next hit => exact hit
      · exact ih

-- Ten to the power 0.3011 exceeds two, so the leading decimal digit stands no further to the left.
def leadingBound (digits : Nat) : Nat := (digits.log2 + 1) * 3011 / 10000

def shortest (magnitude : Nat) : Decimal :=
  let value := exact magnitude
  (shortestWithin magnitude value (leadingBound value.digits)).trimmed

theorem magnitude_shortest {magnitude : Nat} (valid : magnitude ≤ infinity) :
    (shortest magnitude).magnitude = magnitude := by
  simp only [shortest]
  rw [Decimal.magnitude_trimmed, magnitude_shortestWithin (magnitude_exact valid)]

end Kaleidoscope.Number
