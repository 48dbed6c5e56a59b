import Kaleidoscope.Proofs.Machine.Judgement

/-! Texts in other places.

A machine never looks at the place of a lexeme; places only pass through it into what it says.

Main statement: a machine that follows another one lexeme by lexeme says the same; in particular, a machine
says the same of a text in another place.
-/

set_option autoImplicit false

namespace Kaleidoscope

def Lexeme.relocate (move : Position → Position) (lexeme : Lexeme) : Lexeme :=
  { lexeme with position := move lexeme.position }

def LexicalError.relocate (move : Position → Position) : LexicalError → LexicalError
  | .unknownCharacter char position => .unknownCharacter char (move position)
  | .malformedNumber text position => .malformedNumber text (move position)

def Item.relocate (move : Position → Position) : Item → Item
  | .ok lexeme => .ok (lexeme.relocate move)
  | .error error => .error (error.relocate move)

def ParseError.relocate (move : Position → Position) : ParseError → ParseError
  | .unexpected found expected position => .unexpected found expected (move position)
  | .lexical error => .lexical (error.relocate move)

/-- The item with its lexeme written in another way, and its error in another place. -/
def Item.rewrite (write : Lexeme → Lexeme) (move : Position → Position) : Item → Item
  | .ok lexeme => .ok (write lexeme)
  | .error error => .error (error.relocate move)

namespace Machine

variable {State Result Other Result' : Type}

/-- A machine that follows another one lexeme by lexeme says what the other one says, in its own terms and
of the places where the lexemes stand for it. -/
theorem judge_rewrite {machine : Machine State Result} {other : Machine Other Result'}
    (embed : Other → State) (result : Result' → Result) {write : Lexeme → Lexeme}
    {move : Position → Position} (kinds : ∀ lexeme, (write lexeme).kind = lexeme.kind)
    (places : ∀ lexeme, (write lexeme).position = move lexeme.position)
    (follows : ∀ state lexeme, machine.shift (embed state) (write lexeme).token =
      (other.shift state lexeme.token).map embed)
    (stops : ∀ state lookahead, machine.stop (embed state) lookahead =
      (other.stop state lookahead).map result)
    (last : Item) (state : Other) (lexemes : List Lexeme) :
    machine.judge (last.rewrite write move) (embed state) (lexemes.map write) =
      ((other.judge last state lexemes).map result).mapError (ParseError.relocate move) := by
  -- A refusal shows the kind and the place of a lexeme, and nothing else of it.
  have refused (lexeme : Lexeme) (stopped : Except Expectation Result') :
      (stopped.map result).mapError (Parser.refuse (write lexeme)) =
        ((stopped.mapError (Parser.refuse lexeme)).map result).mapError
          (ParseError.relocate move) := by
    cases stopped with
    | ok => rfl
    | error =>
      simp only [Parser.refuse, Except.map, mapError_error, kinds, places]
      rfl
  induction lexemes generalizing state with
  | nil =>
    cases last with
    | error => rfl
    | ok lexeme =>
      simp only [List.map_nil, Item.rewrite, judge, stops, kinds]
      exact refused lexeme _
  | cons lexeme rest ih =>
    simp only [List.map_cons, judge, follows]
    cases other.shift state lexeme.token with
    | none =>
      simp only [Option.map_none, stops, kinds]
      exact refused lexeme _
    | some next => exact ih next

theorem judge_embed {machine : Machine State Result} {other : Machine Other Result'}
    (embed : Other → State) (result : Result' → Result)
    (follows : ∀ state token, machine.shift (embed state) token =
      (other.shift state token).map embed)
    (stops : ∀ state lookahead, machine.stop (embed state) lookahead =
      (other.stop state lookahead).map result)
    (move : Position → Position) (last : Item) (state : Other) (lexemes : List Lexeme) :
    machine.judge (last.relocate move) (embed state) (lexemes.map (Lexeme.relocate move)) =
      ((other.judge last state lexemes).map result).mapError (ParseError.relocate move) := by
  have moved : last.relocate move = last.rewrite (Lexeme.relocate move) move := by
    cases last <;> rfl
  have kinds (lexeme : Lexeme) : (lexeme.relocate move).kind = lexeme.kind := rfl
  have places (lexeme : Lexeme) : (lexeme.relocate move).position = move lexeme.position := rfl
  rw [moved]
  exact judge_rewrite embed result kinds places
    (fun state lexeme => follows state lexeme.token) stops last state lexemes

theorem judge_relocate (machine : Machine State Result) (move : Position → Position) (last : Item)
    (state : State) (lexemes : List Lexeme) :
    machine.judge (last.relocate move) state (lexemes.map (Lexeme.relocate move)) =
      (machine.judge last state lexemes).mapError (ParseError.relocate move) := by
  have follows (state : State) (token : Token) :
      machine.shift (id state) token = (machine.shift state token).map id := by simp
  have stops (state : State) (lookahead : Token.Kind) :
      machine.stop (id state) lookahead = (machine.stop state lookahead).map id := by
    rw [Except.map_id]
    rfl
  have same := judge_embed id id follows stops move last state lexemes
  rwa [Except.map_id] at same

end Machine

end Kaleidoscope
