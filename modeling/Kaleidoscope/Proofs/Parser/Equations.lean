import Kaleidoscope.Proofs.Expression.Enclosed
import Kaleidoscope.Proofs.Parser.Progress
import Kaleidoscope.Proofs.Program.Acceptance

/-! The rules of the grammar as a parser follows them.

Main statements: each of the actions is made up of others as its rule says, with a lookahead of one token
to choose by; what repeats itself has an action for what is still to come.
-/

set_option autoImplicit false

namespace Kaleidoscope

def Token.name : Token → String
  | .identifier name => name
  | _ => ""

namespace Parser

open Parser.Action (andThen done refused peek)

section parameters

/-- What may follow the parameters that have been read, the last of which stands first. -/
def furtherParameters (names : List String) : Action (List String) :=
  run Parameters.machine (.named names)

theorem parameters_eq : parameters = peek fun current =>
    if current.kind = .identifier then
      (expect .identifier).andThen fun lexeme => furtherParameters [lexeme.token.name]
    else done [] := by
  funext ⟨⟨token, text, position⟩, ahead⟩
  exact run_eq_peek (by cases token <;> rfl) rfl

theorem furtherParameters_eq (names : List String) : furtherParameters names = peek fun current =>
    if current.kind = .comma then
      (expect .comma).andThen fun _ => (expect .identifier).andThen fun lexeme =>
        furtherParameters (lexeme.token.name :: names)
    else done names.reverse := by
  have separated : run Parameters.machine (.separated names) =
      (expect .identifier).andThen fun lexeme => furtherParameters (lexeme.token.name :: names) := by
    funext ⟨⟨token, text, position⟩, ahead⟩
    exact run_eq_expect (by cases token <;> rfl) rfl
  funext ⟨⟨token, text, position⟩, ahead⟩
  rw [← separated]
  exact run_eq_peek (by cases token <;> rfl) rfl

end parameters

section expressions

open Expression (Frame State Encloses encloses_machine encloses_factorMachine machine factorMachine)

-- An operator behind a whole expression would have been taken.
theorem kind_ne_operator_of_expression {parser final : Parser} {value : Node}
    (read : expression parser = (.ok value, final)) : final.current.kind ≠ .operator := by
  obtain ⟨taken, last, -, -, stuck, stopped⟩ := run_takes read
  exact ((Expression.shift_eq_none_iff stopped).mp stuck).1

theorem expression_eq : expression = peek fun current =>
    if current.kind = .ifWord then conditional else term := by
  funext ⟨⟨token, text, position⟩, ahead⟩
  cases token with
  | ifWord =>
    change _ = conditional _
    rw [conditional, runAfter_eq]
    exact run_of_fits rfl rfl
  | _ => exact run_congr rfl rfl

section
variable {whole : Machine State Node} {frame : Frame}

theorem run_frame (encloses : Encloses whole [frame]) {behind : Node → Action Node}
    (closes : ∀ value parser, parser.current.kind ≠ .operator →
      run whole (.term value [frame]) parser = behind value parser) :
    run whole (.expression [frame]) = expression.andThen behind := by
  have enclosed := encloses.run_enclose (.expression [])
  refine Eq.trans enclosed (Action.andThen_ext fun parser value final read => ?_)
  exact closes value final (kind_ne_operator_of_expression read)

/-- A frame that only one kind of token closes asks for that kind. -/
theorem run_closed (encloses : Encloses whole [frame]) {kind : Token.Kind}
    {next : Node → State}
    (resumes : ∀ value token, Expression.resume value [frame] token =
      if token.kind = kind then some (next value) else none)
    (stops : ∀ value, Expression.conclude value [frame] = .error (.kind kind)) :
    run whole (.expression [frame]) =
      expression.andThen fun value => (expect kind).andThen fun _ => run whole (next value) := by
  refine run_frame encloses fun value parser notOperator => ?_
  refine run_eq_expect ?_ ?_
  · exact (encloses.shift_term value notOperator).trans (resumes value _)
  · exact (encloses.stops _ _).trans (stops value)

end

theorem conditional_eq : conditional =
    (expect .ifWord).andThen fun _ => expression.andThen fun condition =>
      (expect .thenWord).andThen fun _ => expression.andThen fun consequent =>
        (expect .elseWord).andThen fun _ => expression.andThen fun alternative =>
          done (.conditional condition consequent alternative) := by
  have first : run machine (.expression [.condition]) =
      expression.andThen fun condition => (expect .thenWord).andThen fun _ =>
        run machine (.expression [.consequent condition]) :=
    run_closed (encloses_machine _) (fun _ token => by cases token <;> rfl) fun _ => rfl
  have second (condition : Node) : run machine (.expression [.consequent condition]) =
      expression.andThen fun consequent => (expect .elseWord).andThen fun _ =>
        run machine (.expression [.alternative condition consequent]) :=
    run_closed (encloses_machine _) (fun _ token => by cases token <;> rfl) fun _ => rfl
  -- The last branch is closed by nothing: behind it the conditional is whole.
  have third (condition consequent : Node) :
      run machine (.expression [.alternative condition consequent]) =
        expression.andThen fun alternative => done (.conditional condition consequent alternative) := by
    refine run_frame (encloses_machine _) fun value parser notOperator => ?_
    exact run_eq_done ((encloses_machine _).shift_term value notOperator) rfl
  rw [conditional, runAfter_eq, first]
  simp only [second, third]

def operations (left : Node) : Action Node := run machine (.term left [])

theorem term_eq : term = factor.andThen operations := Expression.run_factor none

theorem operations_eq (left : Node) : operations left = peek fun current =>
    match current.token with
    | .operator op => (expect .operator).andThen fun _ => factor.andThen fun right =>
        operations (.binary left op right)
    | _ => done left := by
  funext ⟨⟨token, text, position⟩, ahead⟩
  cases token with
  | operator op =>
    have operand : run machine (.factor (some (left, op)) []) =
        factor.andThen fun right => operations (.binary left op right) :=
      Expression.run_factor (some (left, op))
    change _ = (expect .operator).andThen (fun _ => factor.andThen _) _
    rw [← operand]
    exact run_of_fits rfl rfl
  | _ => exact run_eq_done rfl rfl

theorem run_factor_term (value : Node) : run factorMachine (.term value []) = done value := by
  funext ⟨⟨token, text, position⟩, ahead⟩
  exact run_eq_done (by cases token <;> rfl) rfl

/-- The arguments that are still to come behind an opening parenthesis or a comma, and the end of the
call; of those that have been read, the last one stands first. -/
def arguments (callee : String) (before : List Node) : Action Node :=
  run factorMachine (.expression [.argument none callee before])

theorem arguments_eq (callee : String) (before : List Node) : arguments callee before =
    expression.andThen fun value => peek fun current =>
      if current.kind = .comma then
        (expect .comma).andThen fun _ => arguments callee (value :: before)
      else (expect .closeParen).andThen fun _ => done (.call callee (value :: before).reverse) := by
  refine run_frame (encloses_factorMachine _ []) fun value parser notOperator => ?_
  obtain ⟨⟨token, text, position⟩, ahead⟩ := parser
  simp only [peek]
  split
  · next comma =>
    refine run_of_fits comma ?_
    cases token with
    | comma => rfl
    | _ => cases comma
  · next last =>
    rw [← run_factor_term]
    refine run_eq_expect ?_ rfl
    cases token with
    | operator => exact absurd rfl notOperator
    | comma => exact absurd rfl last
    | _ => rfl

theorem call_eq (callee : String) : call callee =
    (expect .openParen).andThen fun _ => peek fun current =>
      if current.kind = .closeParen then
        (expect .closeParen).andThen fun _ => done (.call callee [])
      else arguments callee [] := by
  rw [call, runAfter_eq]
  congr
  funext _ ⟨⟨token, text, position⟩, ahead⟩
  cases token with
  | closeParen =>
    change _ = (expect .closeParen).andThen (fun _ => done (Node.call callee [])) _
    rw [← run_factor_term]
    exact run_of_fits rfl rfl
  | _ => exact run_congr rfl rfl

theorem factor_eq : factor = peek fun current =>
    match current.token with
    | .number value => (expect .number).andThen fun _ => done (.number value)
    | .identifier name => (expect .identifier).andThen fun _ => peek fun current =>
        if current.kind = .openParen then call name else done (.identifier name)
    | .openParen => (expect .openParen).andThen fun _ => expression.andThen fun value =>
        (expect .closeParen).andThen fun _ => done value
    | _ => refused .factor := by
  have named (name : String) : run factorMachine (.named name none []) = peek fun current =>
      if current.kind = .openParen then call name else done (.identifier name) := by
    funext ⟨⟨token, text, position⟩, ahead⟩
    rw [call, runAfter_eq]
    exact run_eq_peek (by cases token <;> rfl) rfl
  have group : run factorMachine (.expression [.group none]) = expression.andThen fun value =>
      (expect .closeParen).andThen fun _ => done value := by
    simp only [← run_factor_term]
    exact run_closed (encloses_factorMachine _ []) (fun _ token => by cases token <;> rfl) fun _ => rfl
  funext ⟨⟨token, text, position⟩, ahead⟩
  cases token with
  | number value =>
    change _ = (expect .number).andThen (fun _ => done _) _
    rw [← run_factor_term]
    exact run_of_fits rfl rfl
  | identifier name =>
    change _ = (expect .identifier).andThen (fun _ => peek _) _
    rw [← named]
    exact run_of_fits rfl rfl
  | openParen =>
    change _ = (expect .openParen).andThen (fun _ => expression.andThen _) _
    rw [← group]
    exact run_of_fits rfl rfl
  | _ => exact run_eq_refused rfl rfl

end expressions

section forms

open Form (Role State machine behindHead)

theorem shift_within_of_stuck {inner : Parameters.State} {token : Token} (role : Role) (name : String)
    (stuck : Parameters.shift inner token = none) {names : List String}
    (stopped : Parameters.stop inner = .ok names) :
    machine.shift (.head role (.within name inner)) token =
      if token.kind = .closeParen then some (behindHead role (.complete ⟨name, names⟩)) else none := by
  by_cases closed : token = .closeParen
  · subst closed
    simp [machine, Form.shift, Prototype.shift, stopped, Token.kind]
  · have other : token.kind ≠ .closeParen := by
      cases token <;> simp [Token.kind] at closed ⊢
    simp [machine, Form.shift, Prototype.shift_within_of_ne closed, stuck, other]

theorem run_within (role : Role) (name : String) : run machine (.head role (.within name .first)) =
    parameters.andThen fun names => (expect .closeParen).andThen fun _ =>
      run machine (behindHead role (.complete ⟨name, names⟩)) := by
  funext parser
  refine run_follows (fun inner other => other = .head role (.within name inner)) ?_ ?_ rfl parser
  · rintro inner next _ token rfl taken
    exact ⟨_, Form.shift_head_within role name taken, rfl⟩
  · rintro inner _ parser rfl stuck
    have stuck : Parameters.shift inner parser.current.token = none := stuck
    cases stopped : Parameters.stop inner with
    | ok names =>
      rw [Action.andThen_of_ok (conclude_of_ok stopped)]
      refine run_eq_expect (shift_within_of_stuck role name stuck stopped) ?_
      simp [machine, Form.stop, Prototype.expected, stopped]
    | error expectation =>
      -- A comma has been read, so not even the parenthesis is taken.
      refine run_of_failed stopped ?_ ?_
      · by_cases closed : parser.current.token = .closeParen
        · rw [closed]
          simp [machine, Form.shift, Prototype.shift, stopped]
        · simp [machine, Form.shift, Prototype.shift_within_of_ne closed, stuck]
      · simp [machine, Form.stop, Prototype.expected, stopped]

theorem run_head (role : Role) : run machine (.head role .start) =
    (expect .identifier).andThen fun lexeme => (expect .openParen).andThen fun _ =>
      parameters.andThen fun names => (expect .closeParen).andThen fun _ =>
        run machine (behindHead role (.complete ⟨lexeme.token.name, names⟩)) := by
  have named (name : String) : run machine (.head role (.named name)) =
      (expect .openParen).andThen fun _ => run machine (.head role (.within name .first)) := by
    funext ⟨⟨token, text, position⟩, ahead⟩
    exact run_eq_expect (by cases token <;> rfl) rfl
  simp only [← run_within, ← named]
  funext ⟨⟨token, text, position⟩, ahead⟩
  exact run_eq_expect (by cases token <;> rfl) rfl

theorem run_body (prototype : Prototype) : run machine (.body prototype (.expression [])) =
    expression.andThen fun body => done (.definition prototype body) :=
  run_embed (Form.State.body prototype) (Node.definition prototype) (fun _ _ => rfl) (fun _ _ => rfl) _

theorem definition_eq : definition =
    (expect .define).andThen fun _ => (expect .identifier).andThen fun lexeme =>
      (expect .openParen).andThen fun _ => parameters.andThen fun names =>
        (expect .closeParen).andThen fun _ => expression.andThen fun body =>
          done (.definition ⟨lexeme.token.name, names⟩ body) := by
  rw [definition, runAfter_eq, run_head]
  simp only [behindHead, run_body]

theorem declaration_eq : declaration =
    (expect .declare).andThen fun _ => (expect .identifier).andThen fun lexeme =>
      (expect .openParen).andThen fun _ => parameters.andThen fun names =>
        (expect .closeParen).andThen fun _ => done (.declaration ⟨lexeme.token.name, names⟩) := by
  have declared (prototype : Prototype) :
      run machine (.declared prototype) = done (.declaration prototype) :=
    funext fun _ => run_eq_done rfl rfl
  rw [declaration, runAfter_eq, run_head]
  simp only [behindHead, declared]

theorem form_eq : form = peek fun current =>
    match current.kind with
    | .define => definition
    | .declare => declaration
    | _ => expression := by
  have plain : run machine (.expression (.expression [])) = expression := by
    refine (run_embed Form.State.expression id (fun _ _ => rfl) ?_ (.expression [])).trans
      (Action.andThen_done expression)
    intro state lookahead
    rw [Except.map_id]
    rfl
  funext ⟨⟨token, text, position⟩, ahead⟩
  cases token with
  | define =>
    change _ = definition _
    rw [definition, runAfter_eq]
    exact run_of_fits rfl rfl
  | declare =>
    change _ = declaration _
    rw [declaration, runAfter_eq]
    exact run_of_fits rfl rfl
  | _ =>
    change _ = expression _
    rw [← plain]
    exact run_congr rfl rfl

/-- The forms that are still to come; of those that have been read, the last one stands first. -/
def furtherForms (before : List Node) : Action (List Node) := run Program.machine ⟨before, .start⟩

/-- Once a form has been begun, a program goes on as the form does, and with the next one behind it. -/
theorem run_begun (before : List Node) {state : State} (inside : state ≠ .start) :
    run Program.machine ⟨before, state⟩ =
      (run machine state).andThen fun tree => furtherForms (tree :: before) := by
  funext parser
  refine run_follows (fun inner other => other = ⟨before, inner⟩ ∧ inner ≠ .start) ?_ ?_
    ⟨rfl, inside⟩ parser
  · rintro inner next _ token ⟨rfl, -⟩ taken
    exact ⟨⟨before, next⟩, Program.shift_of_form taken, rfl, Form.shift_ne_start taken⟩
  · rintro inner _ parser ⟨rfl, inside⟩ stuck
    have stuck : Form.shift inner parser.current.token = none := stuck
    cases stopped : Form.stop inner with
    | ok tree =>
      rw [Action.andThen_of_ok (conclude_of_ok stopped)]
      exact run_congr (Program.shift_begins stuck stopped) (Program.stop_begins stopped _)
    | error expectation =>
      refine run_of_failed stopped (Program.shift_of_failed stuck stopped) ?_
      cases inner with
      | start => exact absurd rfl inside
      | _ => simp [Program.machine, Program.stop, stopped]

theorem furtherForms_eq (before : List Node) : furtherForms before = peek fun current =>
    if current.kind = .endOfInput then done before.reverse
    else form.andThen fun tree => furtherForms (tree :: before) := by
  funext parser
  simp only [peek]
  split
  · next ended =>
    have token := Lexeme.kind_eq_endOfInput_iff.mp ended
    refine run_eq_done ?_ ?_
    · rw [token]
      exact Program.machine.shift_endOfInput _
    · rw [ended]
      rfl
  · next inner =>
    cases taken : Form.shift .start parser.current.token with
    | none =>
      have failed : form parser = refused .factor parser := run_eq_refused taken rfl
      rw [Action.andThen_of_error failed]
      exact run_eq_refused (Program.shift_of_failed taken rfl) (if_neg inner)
    | some next =>
      have moved : form parser = _ := run_of_taken taken
      rw [Action.andThen_congr_left moved, Action.andThen_assoc,
        ← run_begun before (Form.shift_ne_start taken)]
      exact run_of_taken (Program.shift_of_form taken)

end forms

end Parser

end Kaleidoscope
