import Kaleidoscope.Parser

/-! Reading a whole source text. -/

set_option autoImplicit false

namespace Kaleidoscope.Source

def scan (policy : Policy) (source : String) : Scan := (Lexer.start policy source).scan

def items (policy : Policy) (source : String) : List Item := (scan policy source).untilError

def tokens (policy : Policy) (source : String) : Except LexicalError (List Token) :=
  (items policy source).mapM fun item => item.map Lexeme.token

def parse {α : Type} (action : Parser.Action α) (policy : Policy) (source : String) :
    Except ParseError α :=
  match Parser.ofScan (scan policy source) with
  | .ok parser => (action parser).1
  | .error error => .error (.lexical error)

/-- The definition at the beginning of the text; what stands behind it is not read. -/
def definition : Policy → String → Except ParseError Node := parse Parser.definition

def program : Policy → String → Except ParseError (List Node) := parse Parser.program

end Kaleidoscope.Source
