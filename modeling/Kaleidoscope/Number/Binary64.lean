import Kaleidoscope.Agreement
import Kaleidoscope.Number.Decimal

/-! Binary64 numbers as a sign and a magnitude. -/

set_option autoImplicit false

namespace Kaleidoscope

def Number.signBit : Nat := 0x8000000000000000

@[ext] structure Binary64 where
  negative : Bool
  magnitude : Nat
  magnitude_lt : magnitude < Number.signBit
  deriving DecidableEq, Repr

namespace Binary64

def ofBits (bits : UInt64) : Binary64 where
  negative := Number.signBit ≤ bits.toNat
  magnitude := bits.toNat % Number.signBit
  magnitude_lt := Nat.mod_lt _ (by decide)

def bits (number : Binary64) : UInt64 :=
  .ofNat (if number.negative then Number.signBit + number.magnitude else number.magnitude)

theorem ofBits_bits (number : Binary64) : ofBits number.bits = number := by
  obtain ⟨negative, magnitude, bound⟩ := number
  have small : magnitude < 0x8000000000000000 := bound
  apply Binary64.ext
  · cases negative <;> simp [ofBits, bits, Number.signBit, UInt64.toNat_ofNat'] <;> omega
  · cases negative <;> simp [ofBits, bits, Number.signBit, UInt64.toNat_ofNat'] <;> omega

def isNaN (number : Binary64) : Bool := Number.infinity < number.magnitude

/-- Both zeros agree, and what is not a number agrees with nothing. -/
instance : Agree Binary64 where
  agrees left right :=
    !left.isNaN && !right.isNaN && (left = right || left.magnitude = 0 && right.magnitude = 0)

def ofQuotient (num den : Nat) : Binary64 where
  negative := false
  magnitude := Number.nearest num den
  magnitude_lt := Nat.lt_of_le_of_lt (Nat.min_le_left ..) (by decide)

def digitsValue (digits : List Char) : Nat :=
  digits.foldl (fun value digit => 10 * value + (digit.toNat - '0'.toNat)) 0

/-- Read a literal: digits with at most one point among or beside them. -/
def ofLiteral? (text : List Char) : Option Binary64 :=
  let whole := text.takeWhile Char.isDigit
  match text.dropWhile Char.isDigit with
  | [] => if whole.isEmpty then none else some (ofQuotient (digitsValue whole) 1)
  | point :: places =>
      if point = '.' && places.all Char.isDigit && !(whole ++ places).isEmpty then
        some (ofQuotient (digitsValue (whole ++ places)) (Nat.pow 10 places.length))
      else none

end Binary64

end Kaleidoscope
