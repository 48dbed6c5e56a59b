import Kaleidoscope.ParseError

/-! Machines that read tokens.

A machine either takes the next token into its state or stops in front of it. Where it stops, its
state alone decides between a result and an expectation, up to whether the text has ended.

Main statement: reading two lists of tokens in turn is reading both at once.
-/

set_option autoImplicit false

namespace Kaleidoscope

structure Machine (State Result : Type) where
  shift : State → Token → Option State
  stop : State → Token.Kind → Except Expectation Result
  shift_endOfInput : ∀ state, shift state .endOfInput = none

namespace Machine

variable {State Result : Type}

/-- The state behind all the given tokens, if every one of them is taken. -/
def shifts (machine : Machine State Result) (state : State) : List Token → Option State
  | [] => some state
  | token :: rest => (machine.shift state token).bind fun next => machine.shifts next rest

@[simp] theorem shifts_nil (machine : Machine State Result) (state : State) :
    machine.shifts state [] = some state := rfl

theorem shifts_append (machine : Machine State Result) (state : State)
    (first second : List Token) :
    machine.shifts state (first ++ second) =
      (machine.shifts state first).bind fun next => machine.shifts next second := by
  induction first generalizing state with
  | nil => rfl
  | cons token rest ih =>
    cases taken : machine.shift state token with
    | none => simp [shifts, taken]
    | some next => simp [shifts, taken, ih]

end Machine

end Kaleidoscope
