import Kaleidoscope.Number.Layout
import Kaleidoscope.Operator
import Kaleidoscope.Outline
import Kaleidoscope.Text.Quoted

/-! The vocabulary of the language. -/

set_option autoImplicit false

namespace Kaleidoscope

inductive Token where
  | endOfInput
  | define
  | declare
  | identifier (name : String)
  | number (value : Binary64)
  | operator (op : Operator)
  | openParen
  | closeParen
  | comma
  | ifWord
  | thenWord
  | elseWord
  deriving DecidableEq, Repr

inductive Token.Kind where
  | endOfInput
  | define
  | declare
  | identifier
  | number
  | operator
  | openParen
  | closeParen
  | comma
  | ifWord
  | thenWord
  | elseWord
  deriving DecidableEq, Repr

namespace Token

def kind : Token → Kind
  | .endOfInput => .endOfInput
  | .define => .define
  | .declare => .declare
  | .identifier _ => .identifier
  | .number _ => .number
  | .operator _ => .operator
  | .openParen => .openParen
  | .closeParen => .closeParen
  | .comma => .comma
  | .ifWord => .ifWord
  | .thenWord => .thenWord
  | .elseWord => .elseWord

/-- How messages call a kind of token. -/
def Kind.text : Kind → String
  | .endOfInput => "end of input"
  | .define => "'def'"
  | .declare => "'?'"
  | .identifier => "identifier"
  | .number => "number"
  | .operator => "operator"
  | .openParen => "'('"
  | .closeParen => "')'"
  | .comma => "','"
  | .ifWord => "'if'"
  | .thenWord => "'then'"
  | .elseWord => "'else'"

/-- How listings call a kind of token. -/
def Kind.name : Kind → String
  | .endOfInput => "EndOfInput"
  | .define => "Def"
  | .declare => "Extern"
  | .identifier => "Identifier"
  | .number => "Number"
  | .operator => "Operator"
  | .openParen => "LParen"
  | .closeParen => "RParen"
  | .comma => "Comma"
  | .ifWord => "If"
  | .thenWord => "Then"
  | .elseWord => "Else"

instance : Agree Token where
  agrees
    | .number value, .number other => agrees value other
    | token, other => token = other

def ofWord (word : String) : Token :=
  if word = "def" then .define
  else if word = "if" then .ifWord
  else if word = "then" then .thenWord
  else if word = "else" then .elseWord
  else .identifier word

-- The equals sign is another spelling of the word for definitions.
def ofMark? (char : Char) : Option Token :=
  match char with
  | '(' => some .openParen
  | ')' => some .closeParen
  | ',' => some .comma
  | '=' => some .define
  | '?' => some .declare
  | char => (Operator.ofSymbol? char).map .operator

def outline (token : Token) : Outline :=
  match token with
  | .identifier name => .tuple token.kind.name [.atom (Text.quotedString name)]
  | .number value => .tuple token.kind.name [.atom value.fullText]
  | .operator op => .tuple token.kind.name [.atom op.name]
  | _ => .atom token.kind.name

end Token

end Kaleidoscope
