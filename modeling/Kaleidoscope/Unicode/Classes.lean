import Kaleidoscope.Unicode.Alphabetic
import Kaleidoscope.Unicode.Numeric
import Kaleidoscope.Unicode.WhiteSpace

/-! How the character classes lie to each other.

Main statement: no white space is alphabetic or numeric, so blanks always separate words.
-/

set_option autoImplicit false

namespace Kaleidoscope.Unicode

def isAlphanumeric (char : Char) : Bool := isAlphabetic char || isNumeric char

theorem isAlphanumeric_eq_false_of_isWhiteSpace {char : Char} (white : isWhiteSpace char = true) :
    isAlphanumeric char = false := by
  have letters : alphabetic.contains char.toNat = false :=
    Ranges.contains_eq_false_of_apart (by decide +kernel : whiteSpace.apart alphabetic) white
  have numbers : numeric.contains char.toNat = false :=
    Ranges.contains_eq_false_of_apart (by decide +kernel : whiteSpace.apart numeric) white
  simp [isAlphanumeric, isAlphabetic, isNumeric, letters, numbers]

theorem isAlphabetic_eq_false_of_isWhiteSpace {char : Char} (white : isWhiteSpace char = true) :
    isAlphabetic char = false := by
  have blank := isAlphanumeric_eq_false_of_isWhiteSpace white
  simp only [isAlphanumeric, Bool.or_eq_false_iff] at blank
  exact blank.1

end Kaleidoscope.Unicode
