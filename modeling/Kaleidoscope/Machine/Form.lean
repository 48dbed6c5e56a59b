import Kaleidoscope.Machine.Expression
import Kaleidoscope.Machine.Prototype

/-! Reading one definition, declaration or expression. -/

set_option autoImplicit false

namespace Kaleidoscope.Form

/-- What a prototype is read for. -/
inductive Role where
  | define
  | declare
  deriving DecidableEq, Repr

inductive State where
  | start
  | head (role : Role) (prototype : Prototype.State)
  | body (prototype : Prototype) (expression : Expression.State)
  | declared (prototype : Prototype)
  | expression (expression : Expression.State)

def behindHead : Role → Prototype.Progress → State
  | role, .pending state => .head role state
  | .define, .complete prototype => .body prototype (.expression [])
  | .declare, .complete prototype => .declared prototype

def shift : State → Token → Option State
  | .start, .define => some (.head .define .start)
  | .start, .declare => some (.head .declare .start)
  | .start, token => (Expression.shift (.expression []) token).map .expression
  | .head role state, token => (Prototype.shift state token).map (behindHead role)
  | .body prototype state, token => (Expression.shift state token).map (.body prototype)
  | .declared _, _ => none
  | .expression state, token => (Expression.shift state token).map .expression

def stop : State → Except Expectation Node
  | .start => .error .factor
  | .head _ state => .error (Prototype.expected state)
  | .body prototype state => (Expression.stop state).map (.definition prototype)
  | .declared prototype => .ok (.declaration prototype)
  | .expression state => Expression.stop state

theorem shift_endOfInput (state : State) : shift state .endOfInput = none := by
  cases state with
  | start | declared => rfl
  | head => simp [shift, Prototype.shift_endOfInput]
  | body | expression => simp [shift, Expression.shift_endOfInput]

def machine : Machine State Node where
  shift := shift
  stop state _ := stop state
  shift_endOfInput := shift_endOfInput

end Kaleidoscope.Form
