import Kaleidoscope.Lexeme

/-! Why a text is refused. -/

set_option autoImplicit false

namespace Kaleidoscope

/-- What would have been accepted in place of the token that was found. -/
inductive Expectation where
  | kind (kind : Token.Kind)
  | factor
  deriving DecidableEq, Repr

inductive ParseError where
  | unexpected (found : Token.Kind) (expected : Expectation) (position : Position)
  | lexical (error : LexicalError)
  deriving DecidableEq, Repr

namespace ParseError

def position : ParseError → Position
  | .unexpected _ _ position => position
  | .lexical error => error.position

def message : ParseError → String
  | .unexpected found (.kind expected) position =>
      position.text ++ ": unexpected token " ++ found.text ++ ", expected " ++ expected.text
  | .unexpected found .factor position =>
      position.text ++ ": expected a number, identifier or '(', found " ++ found.text
  | .lexical error => error.message

def outline : ParseError → Outline
  | .unexpected found (.kind expected) position =>
      .record "UnexpectedToken"
        [("found", .atom found.name), ("expected", .atom expected.name),
          ("span", position.outline)]
  | .unexpected found .factor position =>
      .record "ExpectedFactor" [("found", .atom found.name), ("span", position.outline)]
  | .lexical error => .tuple "Lex" [error.outline]

end ParseError

end Kaleidoscope
