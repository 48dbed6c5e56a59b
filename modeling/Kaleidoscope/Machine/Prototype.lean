import Kaleidoscope.Node
import Kaleidoscope.Machine

/-! Reading parameters, and a name with its parameters in parentheses. -/

set_option autoImplicit false

namespace Kaleidoscope

/-- Names are collected with the last one first. -/
inductive Parameters.State where
  | first
  | named (names : List String)
  | separated (names : List String)
  deriving DecidableEq, Repr

namespace Parameters

def shift : State → Token → Option State
  | .first, .identifier name => some (.named [name])
  | .named names, .comma => some (.separated names)
  | .separated names, .identifier name => some (.named (name :: names))
  | _, _ => none

-- There may be no name at all, but behind a comma one has to follow.
def stop : State → Except Expectation (List String)
  | .first => .ok []
  | .named names => .ok names.reverse
  | .separated _ => .error (.kind .identifier)

def machine : Machine State (List String) where
  shift := shift
  stop state _ := stop state
  shift_endOfInput state := by cases state <;> rfl

end Parameters

inductive Prototype.State where
  | start
  | named (name : String)
  | within (name : String) (parameters : Parameters.State)
  deriving DecidableEq, Repr

namespace Prototype

/-- Reading goes on, or has come to its end with the token. -/
inductive Progress where
  | pending (state : State)
  | complete (prototype : Prototype)

def shift : State → Token → Option Progress
  | .start, .identifier name => some (.pending (.named name))
  | .named name, .openParen => some (.pending (.within name .first))
  | .within name parameters, .closeParen =>
      match Parameters.stop parameters with
      | .ok parameters => some (.complete ⟨name, parameters⟩)
      | .error _ => none
  | .within name parameters, token =>
      (Parameters.shift parameters token).map fun parameters => .pending (.within name parameters)
  | _, _ => none

def expected : State → Expectation
  | .start => .kind .identifier
  | .named _ => .kind .openParen
  | .within _ parameters =>
      match Parameters.stop parameters with
      | .ok _ => .kind .closeParen
      | .error expectation => expectation

theorem shift_endOfInput (state : State) : shift state .endOfInput = none := by
  cases state with
  | start | named => rfl
  | within name parameters =>
    have stuck : Parameters.shift parameters .endOfInput = none :=
      Parameters.machine.shift_endOfInput parameters
    simp [shift, stuck]

end Prototype

end Kaleidoscope
