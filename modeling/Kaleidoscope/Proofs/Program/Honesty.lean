import Kaleidoscope.Proofs.Machine.Viability
import Kaleidoscope.Proofs.Program.Acceptance

/-! What is asked for is taken.

Main statements: the machines for forms and for programs are honest.
-/

set_option autoImplicit false

namespace Kaleidoscope

namespace Expression

theorem isSome_beginFactor {token : Token} (admitted : Expectation.factor.Admits token)
    (pending : Pending) (stack : List Frame) : (beginFactor pending stack token).isSome := by
  cases token <;> simp [Expectation.Admits, Token.kind, beginFactor] at admitted ⊢

theorem isSome_beginExpression {token : Token} (admitted : Expectation.factor.Admits token)
    (stack : List Frame) : (beginExpression stack token).isSome := by
  cases token <;> simp [Expectation.Admits, Token.kind, beginExpression, beginFactor] at admitted ⊢

theorem conclude_cases {value : Node} {stack : List Frame} {expectation : Expectation}
    (refused : conclude value stack = .error expectation) :
    ∃ token ∈ [Token.closeParen, .thenWord, .elseWord], expectation = .kind token.kind ∧
      (resume value stack token).isSome := by
  induction stack generalizing value with
  | nil => simp [conclude] at refused
  | cons frame stack ih =>
    cases frame with
    | alternative => exact ih refused
    | group | argument =>
      obtain rfl : _ = expectation := by simpa [conclude] using refused
      exact ⟨.closeParen, by simp, rfl, rfl⟩
    | condition =>
      obtain rfl : _ = expectation := by simpa [conclude] using refused
      exact ⟨.thenWord, by simp, rfl, rfl⟩
    | consequent =>
      obtain rfl : _ = expectation := by simpa [conclude] using refused
      exact ⟨.elseWord, by simp, rfl, rfl⟩

theorem isSome_shift {state : State} {expectation : Expectation} {token : Token}
    (refused : stop state = .error expectation) (admitted : expectation.Admits token) :
    (shift state token).isSome := by
  have begun (expected : Expectation.factor = expectation) : Expectation.factor.Admits token :=
    expected ▸ admitted
  have closing {value : Node} {stack : List Frame} (settled : Settled value stack state)
      (refused : conclude value stack = .error expectation) : (shift state token).isSome := by
    obtain ⟨closing, member, rfl, taken⟩ := conclude_cases refused
    simp only [List.mem_cons, List.not_mem_nil, or_false] at member
    obtain rfl : token = closing := by
      rcases member with rfl | rfl | rfl <;> cases token <;>
        simp [Expectation.Admits, Token.kind] at admitted ⊢
    have closes : token.kind ∈ [.closeParen, .comma, .thenWord, .elseWord] := by
      rcases member with rfl | rfl | rfl <;> decide
    rw [settled.shift_closing token closes]
    exact taken
  cases state with
  | expression stack => exact isSome_beginExpression (begun (Except.error.inj refused)) stack
  | factor pending stack => exact isSome_beginFactor (begun (Except.error.inj refused)) pending stack
  | arguments callee pending stack =>
    have factor := begun (Except.error.inj refused)
    have other : token ≠ .closeParen := by
      rintro rfl
      simp [Expectation.Admits, Token.kind] at factor
    rw [shift_arguments_of_ne other]
    exact isSome_beginExpression factor _
  | named name pending stack => exact closing (.plain .named) refused
  | term value stack => exact closing (.plain .term) refused

end Expression

theorem Prototype.isSome_shift {state : State} {token : Token}
    (admitted : (expected state).Admits token) : (shift state token).isSome := by
  cases state with
  | start => cases token <;> simp [expected, Expectation.Admits, Token.kind, shift] at admitted ⊢
  | named => cases token <;> simp [expected, Expectation.Admits, Token.kind, shift] at admitted ⊢
  | within name parameters =>
    cases parameters <;> cases token <;>
      simp [expected, Parameters.stop, Parameters.shift, Expectation.Admits, Token.kind, shift]
        at admitted ⊢

theorem Form.isSome_shift {state : State} {expectation : Expectation} {token : Token}
    (refused : stop state = .error expectation) (admitted : expectation.Admits token) :
    (shift state token).isSome := by
  cases state with
  | start =>
    obtain rfl := Except.error.inj refused
    cases token <;>
      simp [Expectation.Admits, Token.kind, shift, Expression.shift, Expression.beginExpression,
        Expression.beginFactor] at admitted ⊢
  | head role prototype =>
    obtain rfl := Except.error.inj refused
    simpa [shift] using Prototype.isSome_shift admitted
  | body prototype state =>
    cases inner : Expression.stop state with
    | ok => simp [stop, inner, Except.map] at refused
    | error other =>
      obtain rfl : other = expectation := by simpa [stop, inner, Except.map] using refused
      simpa [shift] using Expression.isSome_shift inner admitted
  | declared => simp [stop] at refused
  | expression state => simpa [shift] using Expression.isSome_shift refused admitted

theorem Form.honest : Form.machine.Honest :=
  fun _ _ _ _ refused admitted => Form.isSome_shift refused admitted

namespace Program

/-- Inside a form its own expectation is passed on; behind it only a factor is asked for. -/
theorem stop_error_cases {state : State} {lookahead : Token.Kind} {expectation : Expectation}
    (refused : stop state lookahead = .error expectation) :
    Form.stop state.form = .error expectation ∨
      expectation = .factor ∧ ∃ tree, Form.stop state.form = .ok tree := by
  obtain ⟨before, form⟩ := state
  unfold stop at refused
  split at refused
  · next start =>
    obtain rfl : form = .start := start
    split at refused
    · simp at refused
    · obtain rfl := Except.error.inj refused
      exact .inl rfl
  · next failed _ =>
    obtain rfl := Except.error.inj refused
    exact .inl failed
  · next tree whole _ =>
    split at refused
    · simp at refused
    · exact .inr ⟨(Except.error.inj refused).symm, tree, whole⟩

theorem honest : machine.Honest := by
  intro state lookahead expectation token refused admitted
  cases moved : Form.shift state.form token with
  | some form => exact Option.isSome_of_eq_some (shift_of_form moved)
  | none =>
    rcases stop_error_cases refused with failed | ⟨rfl, tree, whole⟩
    · have taken := Form.isSome_shift failed admitted
      simp [moved] at taken
    · have begun : (Form.shift .start token).isSome := Form.isSome_shift rfl admitted
      have taken := shift_of_stuck moved whole
      simp only [machine, taken, Option.isSome_map, begun]

end Program

end Kaleidoscope
