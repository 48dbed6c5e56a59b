import Kaleidoscope.Machine.Form

/-! Reading all forms of a text.

A form goes on as long as it can; only a token that cannot continue it begins the next one.
-/

set_option autoImplicit false

namespace Kaleidoscope.Program

/-- Finished forms are collected with the last one first. -/
structure State where
  before : List Node
  form : Form.State

def start : State := ⟨[], .start⟩

-- The first form may swallow a parenthesis that was meant to begin the second one.
def shift (state : State) (token : Token) : Option State :=
  match Form.shift state.form token with
  | some form => some ⟨state.before, form⟩
  | none =>
      match Form.stop state.form with
      | .ok node => (Form.shift .start token).map fun form => ⟨node :: state.before, form⟩
      | .error _ => none

def stop (state : State) (lookahead : Token.Kind) : Except Expectation (List Node) :=
  match state.form, Form.stop state.form with
  | .start, _ => if lookahead = .endOfInput then .ok state.before.reverse else .error .factor
  | _, .error expectation => .error expectation
  | _, .ok node =>
      if lookahead = .endOfInput then .ok (node :: state.before).reverse else .error .factor

def machine : Machine State (List Node) where
  shift := shift
  stop := stop
  shift_endOfInput state := by
    simp only [shift, Form.shift_endOfInput]
    split <;> rfl

end Kaleidoscope.Program
