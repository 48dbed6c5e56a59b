import Kaleidoscope.Node
import Kaleidoscope.Machine

/-! Reading expressions.

What encloses the place of reading is a stack of frames with the innermost first, so nesting of
any depth needs no recursion. Operators form one level and group to the left.
-/

set_option autoImplicit false

namespace Kaleidoscope.Expression

/-- The left operand and the operator that wait for a right operand. -/
abbrev Pending := Option (Node × Operator)

def join (pending : Pending) (factor : Node) : Node :=
  match pending with
  | none => factor
  | some (left, op) => .binary left op factor

/-- Arguments are collected with the last one first. -/
inductive Frame where
  | group (pending : Pending)
  | argument (pending : Pending) (callee : String) (before : List Node)
  | condition
  | consequent (condition : Node)
  | alternative (condition consequent : Node)

/-- Where reading stands: in front of an expression or of a factor, behind a name that may turn out
to be called, behind the opening of a call, or behind a term that an operator may continue. -/
inductive State where
  | expression (stack : List Frame)
  | factor (pending : Pending) (stack : List Frame)
  | named (name : String) (pending : Pending) (stack : List Frame)
  | arguments (callee : String) (pending : Pending) (stack : List Frame)
  | term (value : Node) (stack : List Frame)

def beginFactor (pending : Pending) (stack : List Frame) : Token → Option State
  | .number value => some (.term (join pending (.number value)) stack)
  | .identifier name => some (.named name pending stack)
  | .openParen => some (.expression (.group pending :: stack))
  | _ => none

def beginExpression (stack : List Frame) : Token → Option State
  | .ifWord => some (.expression (.condition :: stack))
  | token => beginFactor none stack token

-- No bracket closes a conditional: what its last branch does not take is left to what encloses it.
def resume (value : Node) : List Frame → Token → Option State
  | .alternative condition consequent :: stack, token =>
      resume (.conditional condition consequent value) stack token
  | .group pending :: stack, .closeParen => some (.term (join pending value) stack)
  | .argument pending callee before :: stack, .comma =>
      some (.expression (.argument pending callee (value :: before) :: stack))
  | .argument pending callee before :: stack, .closeParen =>
      some (.term (join pending (.call callee (value :: before).reverse)) stack)
  | .condition :: stack, .thenWord => some (.expression (.consequent value :: stack))
  | .consequent condition :: stack, .elseWord =>
      some (.expression (.alternative condition value :: stack))
  | _, _ => none

def conclude (value : Node) : List Frame → Except Expectation Node
  | [] => .ok value
  | .alternative condition consequent :: stack =>
      conclude (.conditional condition consequent value) stack
  | .group _ :: _ | .argument .. :: _ => .error (.kind .closeParen)
  | .condition :: _ => .error (.kind .thenWord)
  | .consequent _ :: _ => .error (.kind .elseWord)

def continueTerm (value : Node) (stack : List Frame) : Token → Option State
  | .operator op => some (.factor (some (value, op)) stack)
  | token => resume value stack token

-- A name in front of a parenthesis is always called; only then does it stop being an operand.
def shift : State → Token → Option State
  | .expression stack, token => beginExpression stack token
  | .factor pending stack, token => beginFactor pending stack token
  | .named name pending stack, .openParen => some (.arguments name pending stack)
  | .named name pending stack, token => continueTerm (join pending (.identifier name)) stack token
  | .arguments callee pending stack, .closeParen =>
      some (.term (join pending (.call callee [])) stack)
  | .arguments callee pending stack, token =>
      beginExpression (.argument pending callee [] :: stack) token
  | .term value stack, token => continueTerm value stack token

def stop : State → Except Expectation Node
  | .expression _ | .factor .. | .arguments .. => .error .factor
  | .named name pending stack => conclude (join pending (.identifier name)) stack
  | .term value stack => conclude value stack

theorem resume_endOfInput (value : Node) (stack : List Frame) :
    resume value stack .endOfInput = none := by
  induction stack generalizing value with
  | nil => rfl
  | cons frame stack ih =>
    cases frame with
    | alternative => exact ih _
    | group | argument | condition | consequent => rfl

theorem shift_endOfInput (state : State) : shift state .endOfInput = none := by
  cases state with
  | expression | factor | arguments => rfl
  | named | term => exact resume_endOfInput ..

def machine : Machine State Node where
  shift := shift
  stop state _ := stop state
  shift_endOfInput := shift_endOfInput

def State.stack : State → List Frame
  | .expression stack | .factor _ stack | .named _ _ stack | .arguments _ _ stack
  | .term _ stack => stack

-- A factor outside all brackets ends in front of an operator.
def shiftFactor (state : State) (token : Token) : Option State :=
  match state.stack, token with
  | [], .operator _ => none
  | _, token => shift state token

def factorMachine : Machine State Node where
  shift := shiftFactor
  stop state _ := stop state
  shift_endOfInput state := by
    simp [shiftFactor, shift_endOfInput]

end Kaleidoscope.Expression
