import Kaleidoscope.Proofs.Expression.Settled
import Kaleidoscope.Proofs.Parser.Sequence

/-! Expressions inside of something else.

Main statements: what encloses an expression goes on where the expression stops, and so does a term behind
each of its factors.
-/

set_option autoImplicit false

namespace Kaleidoscope.Expression

/-- The state with more frames around all that it stands in. -/
def State.enclose (outer : List Frame) : State → State
  | .expression stack => .expression (stack ++ outer)
  | .factor pending stack => .factor pending (stack ++ outer)
  | .named name pending stack => .named name pending (stack ++ outer)
  | .arguments callee pending stack => .arguments callee pending (stack ++ outer)
  | .term value stack => .term value (stack ++ outer)

section
variable (stack outer : List Frame) (token : Token)

theorem beginFactor_enclose (pending : Pending) :
    beginFactor pending (stack ++ outer) token =
      (beginFactor pending stack token).map (State.enclose outer) := by
  cases token <;> rfl

theorem beginExpression_enclose :
    beginExpression (stack ++ outer) token =
      (beginExpression stack token).map (State.enclose outer) := by
  cases token <;> rfl

theorem conclude_enclose (value : Node) :
    conclude value (stack ++ outer) =
      (conclude value stack).bind fun whole => conclude whole outer := by
  induction stack generalizing value with
  | nil => rfl
  | cons frame stack ih =>
    cases frame with
    | alternative => exact ih _
    | group | argument | condition | consequent => rfl

theorem resume_enclose (value : Node) :
    resume value (stack ++ outer) token =
      ((resume value stack token).map (State.enclose outer)).or
        ((conclude value stack).toOption.bind fun whole => resume whole outer token) := by
  induction stack generalizing value with
  | nil => rfl
  | cons frame stack ih =>
    cases frame with
    | alternative => exact ih _
    | group | argument | condition | consequent => cases token <;> rfl

theorem stop_enclose (state : State) :
    stop (state.enclose outer) = (stop state).bind fun whole => conclude whole outer := by
  cases state with
  | expression | factor | arguments => rfl
  | named name pending stack => exact conclude_enclose stack outer _
  | term value stack => exact conclude_enclose stack outer value

theorem continueTerm_enclose (value : Node) :
    continueTerm value (stack ++ outer) token =
      ((continueTerm value stack token).map (State.enclose outer)).or
        ((conclude value stack).toOption.bind fun whole => resume whole outer token) := by
  cases token with
  | operator => rfl
  | _ => exact resume_enclose stack outer _ value

theorem shift_enclose (state : State) :
    shift (state.enclose outer) token =
      ((shift state token).map (State.enclose outer)).or
        ((stop state).toOption.bind fun whole => resume whole outer token) := by
  cases state with
  | expression stack =>
    rw [show (stop (.expression stack)).toOption = none from rfl, Option.bind_none, Option.or_none]
    exact beginExpression_enclose stack outer token
  | factor pending stack =>
    rw [show (stop (.factor pending stack)).toOption = none from rfl, Option.bind_none, Option.or_none]
    exact beginFactor_enclose stack outer token pending
  | named name pending stack =>
    by_cases opened : token = .openParen
    · subst opened
      rfl
    · rw [State.enclose, shift_named_of_ne opened, shift_named_of_ne opened]
      exact continueTerm_enclose stack outer token _
  | arguments callee pending stack =>
    rw [show (stop (.arguments callee pending stack)).toOption = none from rfl, Option.bind_none,
      Option.or_none]
    by_cases closed : token = .closeParen
    · subst closed
      rfl
    · rw [State.enclose, shift_arguments_of_ne closed, shift_arguments_of_ne closed]
      exact beginExpression_enclose (.argument pending callee [] :: stack) outer token
  | term value stack => exact continueTerm_enclose stack outer token value

end

theorem stack_enclose (state : State) (outer : List Frame) :
    (state.enclose outer).stack = state.stack ++ outer := by
  cases state <;> rfl

theorem shiftFactor_enclose (state : State) {outer : List Frame} (opened : outer ≠ [])
    (token : Token) : shiftFactor (state.enclose outer) token = shift (state.enclose outer) token := by
  have inside : (state.enclose outer).stack ≠ [] := by
    rw [stack_enclose]
    exact List.append_ne_nil_of_right_ne_nil _ opened
  unfold shiftFactor
  split
  · contradiction
  · rfl

/-- Inside of these frames the machine reads just as expressions are read. -/
structure Encloses (whole : Machine State Node) (outer : List Frame) : Prop where
  shifts : ∀ state token, whole.shift (State.enclose outer state) token =
    shift (state.enclose outer) token
  stops : ∀ state lookahead, whole.stop state lookahead = stop state

theorem encloses_machine (outer : List Frame) : Encloses machine outer :=
  ⟨fun _ _ => rfl, fun _ _ => rfl⟩

theorem encloses_factorMachine (frame : Frame) (outer : List Frame) :
    Encloses factorMachine (frame :: outer) :=
  ⟨fun state token => shiftFactor_enclose state (List.cons_ne_nil frame outer) token, fun _ _ => rfl⟩

section
variable {whole : Machine State Node} {outer : List Frame}

theorem Encloses.shift_term (encloses : Encloses whole outer) (value : Node) {token : Token}
    (notOperator : token.kind ≠ .operator) :
    whole.shift (.term value outer) token = resume value outer token :=
  (encloses.shifts (.term value []) token).trans (continueTerm_of_ne notOperator value outer)

theorem Encloses.run_enclose (encloses : Encloses whole outer) (state : State) :
    Parser.run whole (state.enclose outer) =
      (Parser.run machine state).andThen fun value => Parser.run whole (.term value outer) := by
  funext parser
  refine Parser.run_follows (fun inner other => other = inner.enclose outer) ?_ ?_ rfl parser
  · rintro inner next _ token rfl taken
    have taken : shift inner token = some next := taken
    exact ⟨next.enclose outer, by rw [encloses.shifts, shift_enclose, taken]; rfl, rfl⟩
  · rintro inner _ parser rfl stuck
    have stuck : shift inner parser.current.token = none := stuck
    have shifted := shift_enclose outer parser.current.token inner
    have stopped := stop_enclose outer inner
    have inside (lookahead : Token.Kind) : machine.stop inner lookahead = stop inner := rfl
    rw [stuck, Option.map_none, Option.none_or, ← encloses.shifts] at shifted
    cases found : stop inner with
    | error expected =>
      rw [found] at shifted stopped
      exact Parser.run_of_failed ((inside _).trans found) shifted ((encloses.stops _ _).trans stopped)
    | ok value =>
      rw [found] at shifted stopped
      -- An operator would have led on inside, so the token is left to the frames.
      have notOperator := ((shift_eq_none_iff found).mp stuck).1
      rw [Parser.Action.andThen_of_ok (Parser.conclude_of_ok ((inside _).trans found))]
      refine Parser.run_congr (shifted.trans (encloses.shift_term value notOperator).symm) ?_
      rw [encloses.stops, encloses.stops, stopped]
      rfl

end

/-- The frame that a factor opens, and the one that it opens as an operand. -/
inductive Opened (pending : Pending) : Frame → Frame → Prop where
  | group : Opened pending (.group none) (.group pending)
  | argument (callee : String) (before : List Node) :
      Opened pending (.argument none callee before) (.argument pending callee before)

/-- Where a factor by itself is read, and where it is read as an operand. -/
inductive Grafts (pending : Pending) : State → State → Prop where
  | factor : Grafts pending (.factor none []) (.factor pending [])
  | named (name : String) : Grafts pending (.named name none []) (.named name pending [])
  | arguments (callee : String) :
      Grafts pending (.arguments callee none []) (.arguments callee pending [])
  | term (value : Node) : Grafts pending (.term value []) (.term (join pending value) [])
  | enclosed {frame graft : Frame} (opened : Opened pending frame graft) (state : State) :
      Grafts pending (state.enclose [frame]) (state.enclose [graft])

section
variable {pending : Pending} {frame graft : Frame}

theorem Opened.resume (opened : Opened pending frame graft) {value : Node} {token : Token}
    {next : State} (taken : resume value [frame] token = some next) :
    ∃ further, Expression.resume value [graft] token = some further ∧ Grafts pending next further := by
  cases opened with
  | group =>
    cases token with
    | closeParen =>
      obtain rfl : .term value [] = next := Option.some.inj taken
      exact ⟨_, rfl, .term value⟩
    | _ => simp [Expression.resume] at taken
  | argument callee before =>
    cases token with
    | comma =>
      obtain rfl : .expression [.argument none callee (value :: before)] = next :=
        Option.some.inj taken
      exact ⟨_, rfl, .enclosed (.argument callee (value :: before)) (.expression [])⟩
    | closeParen =>
      obtain rfl : .term (.call callee (value :: before).reverse) [] = next := Option.some.inj taken
      exact ⟨_, rfl, .term _⟩
    | _ => simp [Expression.resume] at taken

theorem Opened.resume_eq_none (opened : Opened pending frame graft) {value : Node} {token : Token}
    (stuck : Expression.resume value [frame] token = none) :
    Expression.resume value [graft] token = none := by
  cases opened <;> cases token <;> simp_all [Expression.resume]

theorem Opened.conclude_eq (opened : Opened pending frame graft) (value : Node) :
    conclude value [frame] = .error (.kind .closeParen) ∧
      conclude value [graft] = .error (.kind .closeParen) := by
  cases opened <;> exact ⟨rfl, rfl⟩

theorem Grafts.shift {inner other next : State} {token : Token} (grafts : Grafts pending inner other)
    (taken : shiftFactor inner token = some next) :
    ∃ further, Expression.shift other token = some further ∧ Grafts pending next further := by
  cases grafts with
  | factor =>
    cases token with
    | number value =>
      obtain rfl : .term (.number value) [] = next := Option.some.inj taken
      exact ⟨_, rfl, .term _⟩
    | identifier name =>
      obtain rfl : .named name none [] = next := Option.some.inj taken
      exact ⟨_, rfl, .named name⟩
    | openParen =>
      obtain rfl : .expression [.group none] = next := Option.some.inj taken
      exact ⟨_, rfl, .enclosed .group (.expression [])⟩
    | _ => simp [shiftFactor, State.stack, Expression.shift, beginFactor] at taken
  | named name =>
    cases token with
    | openParen =>
      obtain rfl : .arguments name none [] = next := Option.some.inj taken
      exact ⟨_, rfl, .arguments name⟩
    | _ => simp [shiftFactor, State.stack, Expression.shift, continueTerm, Expression.resume] at taken
  | arguments callee =>
    by_cases closed : token = .closeParen
    · subst closed
      obtain rfl : .term (.call callee []) [] = next := Option.some.inj taken
      exact ⟨_, rfl, .term _⟩
    · have begun : Expression.shift (.arguments callee none []) token = some next := by
        cases token <;> exact taken
      rw [shift_arguments_of_ne closed] at begun ⊢
      obtain ⟨inside, begun', rfl⟩ := Option.map_eq_some_iff.mp
        ((beginExpression_enclose [] [.argument none callee []] token).symm.trans begun)
      refine ⟨inside.enclose [.argument pending callee []], ?_, .enclosed (.argument callee []) inside⟩
      exact (beginExpression_enclose [] [.argument pending callee []] token).trans
        (Option.map_eq_some_iff.mpr ⟨inside, begun', rfl⟩)
  | term value =>
    -- A factor that is whole takes nothing more when it stands by itself.
    cases token <;> simp [shiftFactor, State.stack, Expression.shift, continueTerm,
      Expression.resume] at taken
  | enclosed opened state =>
    rw [shiftFactor_enclose state (List.cons_ne_nil _ _), shift_enclose] at taken
    rw [shift_enclose]
    cases inside : Expression.shift state token with
    | some further =>
      obtain rfl : further.enclose _ = next := by simpa [inside] using taken
      exact ⟨_, rfl, .enclosed opened further⟩
    | none =>
      rw [inside, Option.map_none, Option.none_or] at taken
      obtain ⟨whole, stopped, resumed⟩ := Option.bind_eq_some_iff.mp taken
      obtain ⟨further, resumed, grafts⟩ := opened.resume resumed
      exact ⟨further, by simp [stopped, resumed], grafts⟩

theorem Grafts.run {inner other : State} {parser : Parser} (grafts : Grafts pending inner other)
    (stuck : shiftFactor inner parser.current.token = none) :
    Parser.run machine other parser =
      Parser.Action.andThen (Parser.conclude factorMachine inner)
        (fun value => Parser.run machine (.term (join pending value) [])) parser := by
  cases grafts with
  | factor =>
    -- Both lack the factor that has to come next.
    refine Parser.run_of_failed rfl ?_ rfl
    generalize parser.current.token = token at stuck ⊢
    cases token <;> simp_all [machine, shiftFactor, State.stack, Expression.shift, beginFactor]
  | named name =>
    refine Parser.run_congr ?_ rfl
    refine shift_named_of_ne ?_ name pending []
    intro opened
    rw [opened] at stuck
    simp [shiftFactor, State.stack, Expression.shift] at stuck
  | arguments callee =>
    refine Parser.run_of_failed rfl ?_ rfl
    have notClosed : parser.current.token ≠ .closeParen := by
      intro closed
      rw [closed] at stuck
      simp [shiftFactor, State.stack, Expression.shift] at stuck
    refine (shift_arguments_of_ne notClosed callee pending []).trans ?_
    generalize parser.current.token = token at stuck ⊢
    cases token <;> simp_all [shiftFactor, State.stack, Expression.shift, beginExpression, beginFactor]
  | term value => rfl
  | @enclosed frame graft opened state =>
    -- Inside of a bracket the same expression is read; only the frame around it is another one.
    rw [shiftFactor_enclose state (List.cons_ne_nil _ _), shift_enclose, Option.or_eq_none_iff,
      Option.map_eq_none_iff] at stuck
    obtain ⟨inside, outside⟩ := stuck
    have shifted : Expression.shift (state.enclose [graft]) parser.current.token = none := by
      rw [shift_enclose, inside, Option.map_none, Option.none_or]
      rw [Option.bind_eq_none_iff] at outside ⊢
      intro whole stopped
      exact opened.resume_eq_none (outside whole stopped)
    cases stopped : stop state with
    | error expectation =>
      have fails (outer : List Frame) : stop (state.enclose outer) = .error expectation := by
        rw [stop_enclose, stopped]
        rfl
      exact Parser.run_of_failed (fails [frame]) shifted (fails [graft])
    | ok whole =>
      -- The bracket has not been closed, and both of them ask for that.
      obtain ⟨alone, grafted⟩ := opened.conclude_eq whole
      have stoppedAlone : stop (state.enclose [frame]) = .error (.kind .closeParen) := by
        rw [stop_enclose, stopped]
        exact alone
      have stoppedGrafted : stop (state.enclose [graft]) = .error (.kind .closeParen) := by
        rw [stop_enclose, stopped]
        exact grafted
      exact Parser.run_of_failed stoppedAlone shifted stoppedGrafted

end

-- How far a term has got makes no difference to the factor that is read next.
theorem run_factor (pending : Pending) :
    Parser.run machine (.factor pending []) =
      (Parser.run factorMachine (.factor none [])).andThen fun value =>
        Parser.run machine (.term (join pending value) []) := by
  funext parser
  exact Parser.run_follows (Grafts pending) Grafts.shift Grafts.run .factor parser

end Kaleidoscope.Expression
