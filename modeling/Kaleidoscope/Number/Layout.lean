import Kaleidoscope.Number.Binary64
import Kaleidoscope.Number.Shortest

/-! How numbers are written.

Both layouts use the fewest digits that read back. The plain layout is positional throughout; the
full layout always shows that the number is no integer, and has an exponent where a positional
text would be long.
-/

set_option autoImplicit false

namespace Kaleidoscope

/-- The number `0.d₁d₂… * 10 ^ point`. -/
structure Digits where
  digits : List Char
  point : Int

namespace Digits

def ofMagnitude (magnitude : Nat) : Digits :=
  let decimal := Number.shortest magnitude
  let digits := Nat.toDigits 10 decimal.digits
  ⟨digits, digits.length + decimal.exponent⟩

def zeros (count : Int) : List Char := List.replicate count.toNat '0'

def isInteger (number : Digits) : Bool := number.digits.length ≤ number.point

def positional (number : Digits) : List Char :=
  if number.point ≤ 0 then ['0', '.'] ++ zeros (-number.point) ++ number.digits
  else if number.isInteger then number.digits ++ zeros (number.point - number.digits.length)
  else number.digits.take number.point.toNat ++ ['.'] ++ number.digits.drop number.point.toNat

def scientific (number : Digits) : List Char :=
  let places := number.digits.drop 1
  number.digits.take 1 ++ (if places.isEmpty then [] else '.' :: places) ++
    ['e'] ++ (toString (number.point - 1)).toList

/-- Positional from 10 ^ -4 up to, but not including, 10 ^ 16. -/
def full (number : Digits) : List Char :=
  if number.point < -3 || 16 < number.point then number.scientific
  else if number.isInteger then number.positional ++ ['.', '0']
  else number.positional

end Digits

namespace Binary64

def write (layout : Digits → List Char) (zero : List Char) (number : Binary64) : String :=
  let sign := if number.negative then ['-'] else []
  if number.isNaN then "NaN"
  else if number.magnitude = Number.infinity then String.ofList (sign ++ ['i', 'n', 'f'])
  else if number.magnitude = 0 then String.ofList (sign ++ zero)
  else String.ofList (sign ++ layout (.ofMagnitude number.magnitude))

def plainText : Binary64 → String := write Digits.positional ['0']

def fullText : Binary64 → String := write Digits.full ['0', '.', '0']

end Binary64

end Kaleidoscope
