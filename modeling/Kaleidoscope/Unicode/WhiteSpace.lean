import Kaleidoscope.Unicode.Ranges

/-! The characters with the property White_Space, as of Unicode 17. -/

set_option autoImplicit false
set_option maxRecDepth 4000

namespace Kaleidoscope.Unicode

def whiteSpace : Ranges :=
  [
    (0x09, 0x0D), (0x20, 0x20), (0x85, 0x85), (0xA0, 0xA0), (0x1680, 0x1680), (0x2000, 0x200A),
    (0x2028, 0x2029), (0x202F, 0x202F), (0x205F, 0x205F), (0x3000, 0x3000)
  ]

def isWhiteSpace (char : Char) : Bool := whiteSpace.contains char.toNat

end Kaleidoscope.Unicode
