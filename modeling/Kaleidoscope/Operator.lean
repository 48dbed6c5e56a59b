/-! The four operators. -/

set_option autoImplicit false

namespace Kaleidoscope

inductive Operator where
  | plus
  | minus
  | times
  | divide
  deriving DecidableEq, Repr

namespace Operator

def symbol : Operator → Char
  | .plus => '+'
  | .minus => '-'
  | .times => '*'
  | .divide => '/'

def ofSymbol? (char : Char) : Option Operator :=
  match char with
  | '+' => some .plus
  | '-' => some .minus
  | '*' => some .times
  | '/' => some .divide
  | _ => none

theorem ofSymbol?_symbol (operator : Operator) : ofSymbol? operator.symbol = some operator := by
  cases operator <;> rfl

def text (operator : Operator) : String := operator.symbol.toString

def name : Operator → String
  | .plus => "Plus"
  | .minus => "Minus"
  | .times => "Mult"
  | .divide => "Div"

end Operator

end Kaleidoscope
