import Kaleidoscope.Lexeme.Lexer
import Kaleidoscope.Machine.Program

/-! A parser at work: one lexeme of lookahead and the scan behind it.

A lexical error is met when the lexeme in front of it is taken; the lookahead then stays, and the
scan goes on behind the error.
-/

set_option autoImplicit false

namespace Kaleidoscope

structure Parser where
  current : Lexeme
  ahead : Scan

/-- Reading from a parser fails or succeeds, and leaves a parser in either case. -/
abbrev Parser.Action (α : Type) := Parser → Except ParseError α × Parser

namespace Parser

def ofScan (scan : Scan) : Except LexicalError Parser :=
  scan.next.1.map fun lexeme => ⟨lexeme, scan.next.2⟩

def refuse (current : Lexeme) (expectation : Expectation) : ParseError :=
  .unexpected current.kind expectation current.position

/-- Take the lookahead if it is of the given kind. -/
def expect (kind : Token.Kind) : Action Lexeme := fun parser =>
  if parser.current.kind = kind then
    match parser.ahead.next with
    | (.ok lexeme, ahead) => (.ok parser.current, ⟨lexeme, ahead⟩)
    | (.error error, ahead) => (.error (.lexical error), ⟨parser.current, ahead⟩)
  else (.error (refuse parser.current (.kind kind)), parser)

variable {State Result : Type}

def conclude (machine : Machine State Result) (state : State) (parser : Parser) :
    Except ParseError Result × Parser :=
  ((machine.stop state parser.current.kind).mapError (refuse parser.current), parser)

/-- Let a machine read from the lookahead on until it stops or an error stands in its way. -/
def runFrom (machine : Machine State Result) (ending : Position) (state : State)
    (current : Lexeme) (items : List Item) : Except ParseError Result × Parser :=
  match machine.shift state current.token with
  | none => conclude machine state ⟨current, ⟨items, ending⟩⟩
  | some next =>
      match items with
      | [] => conclude machine next ⟨.ending ending, ⟨[], ending⟩⟩
      | .ok lexeme :: rest => runFrom machine ending next lexeme rest
      | .error error :: rest => (.error (.lexical error), ⟨current, ⟨rest, ending⟩⟩)

def run (machine : Machine State Result) (state : State) : Action Result := fun parser =>
  runFrom machine parser.ahead.ending state parser.current parser.ahead.items

def runAfter (kind : Token.Kind) (machine : Machine State Result) (state : State) :
    Action Result := fun parser =>
  match parser.expect kind with
  | (.ok _, parser) => parser.run machine state
  | (.error error, parser) => (.error error, parser)

def parameters : Action (List String) := run Parameters.machine .first

def expression : Action Node := run Expression.machine (.expression [])

def conditional : Action Node := runAfter .ifWord Expression.machine (.expression [.condition])

def term : Action Node := run Expression.machine (.factor none [])

def factor : Action Node := run Expression.factorMachine (.factor none [])

/-- The rest of a call of the given name. -/
def call (callee : String) : Action Node :=
  runAfter .openParen Expression.factorMachine (.arguments callee none [])

def definition : Action Node := runAfter .define Form.machine (.head .define .start)

def declaration : Action Node := runAfter .declare Form.machine (.head .declare .start)

def form : Action Node := run Form.machine .start

def program : Action (List Node) := run Program.machine Program.start

end Parser

end Kaleidoscope
