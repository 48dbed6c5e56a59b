import Kaleidoscope.Text.Position
import Kaleidoscope.Token

/-! Tokens in their place, and what cannot be a token. -/

set_option autoImplicit false

namespace Kaleidoscope

def Position.outline (position : Position) : Outline :=
  .record "Span"
    [("offset", .atom (toString position.offset)), ("line", .atom (toString position.line)),
      ("column", .atom (toString position.column))]

structure Lexeme where
  token : Token
  text : String
  position : Position
  deriving DecidableEq, Repr

def Lexeme.kind (lexeme : Lexeme) : Token.Kind := lexeme.token.kind

instance : Agree Lexeme where
  agrees lexeme other :=
    agrees lexeme.token other.token && lexeme.text = other.text && lexeme.position = other.position

/-- The lexeme behind everything else. -/
def Lexeme.ending (position : Position) : Lexeme := ⟨.endOfInput, "", position⟩

inductive LexicalError where
  | unknownCharacter (char : Char) (position : Position)
  | malformedNumber (text : String) (position : Position)
  deriving DecidableEq, Repr

namespace LexicalError

def position : LexicalError → Position
  | .unknownCharacter _ position => position
  | .malformedNumber _ position => position

def message : LexicalError → String
  | .unknownCharacter char position =>
      position.text ++ ": unknown character " ++ Text.quotedChar char
  | .malformedNumber text position =>
      position.text ++ ": malformed number literal '" ++ text ++ "'"

def outline : LexicalError → Outline
  | .unknownCharacter char position =>
      .record "UnknownCharacter"
        [("ch", .atom (Text.quotedChar char)), ("span", position.outline)]
  | .malformedNumber text position =>
      .record "MalformedNumber"
        [("text", .atom (Text.quotedString text)), ("span", position.outline)]

end LexicalError

end Kaleidoscope
