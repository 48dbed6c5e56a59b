import Kaleidoscope.Proofs.Expression.Reads
import Kaleidoscope.Proofs.Machine.Acceptance

/-! Where a derivation leads.

Behind a whole expression reading may stand in front of the last branches of several conditionals at
once, or behind a name that may still be called. All these states are settled on the value of the
expression: they read on just as the enclosing stack does with that value.

Main statements: the tokens of a derivation are taken from any stack on, and from every state on some
tokens make the expression whole.
-/

set_option autoImplicit false

namespace Kaleidoscope.Expression

open Grammar (Symbol Derives endsWithName)
open Machine (fillers literal)

def State.isNamed : State → Bool
  | .named .. => true
  | .expression _ | .factor .. | .arguments .. | .term .. => false

/-- The states behind a whole term. -/
inductive Ended : Node → List Frame → State → Prop where
  | term {value : Node} {stack : List Frame} : Ended value stack (.term value stack)
  | named {name : String} {pending : Pending} {stack : List Frame} :
      Ended (join pending (.identifier name)) stack (.named name pending stack)

/-- The states behind a whole expression. -/
inductive Settled : Node → List Frame → State → Prop where
  | plain {value : Node} {stack : List Frame} {state : State} :
      Ended value stack state → Settled value stack state
  | alternative {condition consequent value : Node} {stack : List Frame} {state : State} :
      Settled value (.alternative condition consequent :: stack) state →
      Settled (.conditional condition consequent value) stack state

theorem resume_closes {value : Node} {stack : List Frame} {token : Token} {next : State}
    (taken : resume value stack token = some next) :
    next.isNamed = false ∧ token.kind ∈ [.closeParen, .comma, .thenWord, .elseWord] := by
  induction stack generalizing value with
  | nil => simp [resume] at taken
  | cons frame stack ih =>
    cases frame with
    | alternative condition consequent => exact ih taken
    | group | argument | condition | consequent =>
      cases token <;> simp [resume] at taken <;> subst taken <;> simp [State.isNamed, Token.kind]

theorem Ended.shift_operator {value : Node} {stack : List Frame} {state : State}
    (ended : Ended value stack state) (op : Operator) :
    shift state (.operator op) = some (.factor (some (value, op)) stack) := by
  cases ended <;> rfl

theorem Ended.shift_eq {value : Node} {stack : List Frame} {state : State} {token : Token}
    (ended : Ended value stack state) (notOperator : token.kind ≠ .operator)
    (notCalled : token = .openParen → state.isNamed = false) :
    shift state token = resume value stack token := by
  cases ended with
  | term => exact continueTerm_of_ne notOperator value stack
  | named =>
    have notOpened : token ≠ .openParen := by
      intro opened
      simp [State.isNamed] at notCalled
      exact notCalled opened
    rw [shift_named_of_ne notOpened, continueTerm_of_ne notOperator]

theorem Settled.shift_eq {value : Node} {stack : List Frame} {state : State} {token : Token}
    (settled : Settled value stack state) (notOperator : token.kind ≠ .operator)
    (notCalled : token = .openParen → state.isNamed = false) :
    shift state token = resume value stack token := by
  induction settled with
  | plain ended => exact ended.shift_eq notOperator notCalled
  | alternative _ ih => exact ih notCalled

theorem Settled.shift_closing {value : Node} {stack : List Frame} {state : State}
    (settled : Settled value stack state) (token : Token)
    (closes : token.kind ∈ [.closeParen, .comma, .thenWord, .elseWord]) :
    shift state token = resume value stack token := by
  refine settled.shift_eq ?_ ?_
  · rintro operator
    simp [operator] at closes
  · rintro rfl
    simp [Token.kind] at closes

theorem Settled.stop_eq {value : Node} {stack : List Frame} {state : State}
    (settled : Settled value stack state) : stop state = conclude value stack := by
  induction settled with
  | plain ended => cases ended <;> rfl
  | alternative _ ih => exact ih

theorem Settled.of_conclude {value result : Node} {stack : List Frame} {state : State}
    (settled : Settled value stack state) (whole : conclude value stack = .ok result) :
    Settled result [] state := by
  -- Where nothing is missing, only last branches are left to be made whole.
  induction stack generalizing value with
  | nil =>
    obtain rfl : value = result := by simpa [conclude] using whole
    exact settled
  | cons frame stack ih =>
    cases frame with
    | alternative condition consequent => exact ih settled.alternative whole
    | group | argument | condition | consequent => simp [conclude] at whole

theorem settled_of_stop {state : State} {value : Node} (stopped : stop state = .ok value) :
    Settled value [] state := by
  cases state with
  | expression | factor | arguments => simp [stop] at stopped
  | named name pending stack => exact Settled.of_conclude (.plain .named) stopped
  | term tree stack => exact Settled.of_conclude (.plain .term) stopped

theorem Settled.isSome_shift_operator {value : Node} {stack : List Frame} {state : State}
    (settled : Settled value stack state) (op : Operator) :
    (shift state (.operator op)).isSome := by
  induction settled with
  | plain ended => exact Option.isSome_of_eq_some (ended.shift_operator op)
  | alternative _ ih => exact ih

theorem shift_eq_none_iff {state : State} {value : Node} (stopped : stop state = .ok value)
    {token : Token} : shift state token = none ↔
      token.kind ≠ .operator ∧ (token = .openParen → state.isNamed = false) := by
  have settled := settled_of_stop stopped
  constructor
  · intro stuck
    constructor
    · intro operator
      obtain ⟨op, rfl⟩ : ∃ op, token = .operator op := by
        cases token <;> simp [Token.kind] at operator ⊢
      have taken := settled.isSome_shift_operator op
      simp [stuck] at taken
    · rintro rfl
      cases state with
      | named => simp [shift] at stuck
      | expression | factor | arguments | term => rfl
  · rintro ⟨notOperator, notCalled⟩
    rw [settled.shift_eq notOperator notCalled]
    rfl

/-- What reading the tokens of a symbol comes to, whatever encloses them. -/
def Leads : Symbol → List Token → List Node → Prop
  | .expression, tokens, trees => ∀ tree stack, trees = [tree] → ∃ final,
      machine.shifts (.expression stack) tokens = some final ∧ Settled tree stack final
  | .term, tokens, trees => ∀ tree stack, trees = [tree] → ∃ final,
      machine.shifts (.factor none stack) tokens = some final ∧ Ended tree stack final
  | .factor, tokens, trees => ∀ tree pending stack, trees = [tree] → ∃ final,
      machine.shifts (.factor pending stack) tokens = some final ∧
      Ended (join pending tree) stack final
  | .arguments, tokens, trees => ∀ pending callee before stack, ∃ others value final,
      trees = others ++ [value] ∧
      machine.shifts (.expression (.argument pending callee before :: stack)) tokens = some final ∧
      Settled value (.argument pending callee (others.reverse ++ before) :: stack) final

/-- A state that begins like another one goes on like it behind the first token. -/
theorem shifts_of_begins {state other final : State} {tokens : List Token}
    (nonempty : tokens ≠ []) (reached : machine.shifts other tokens = some final)
    (begins : ∀ token next, shift other token = some next → shift state token = some next) :
    machine.shifts state tokens = some final := by
  obtain ⟨token, rest, rfl⟩ := List.exists_cons_of_ne_nil nonempty
  simp only [Machine.shifts, Option.bind_eq_some_iff] at reached ⊢
  obtain ⟨next, taken, reached⟩ := reached
  exact ⟨next, begins token next taken, reached⟩

theorem shift_expression_of_factor (stack : List Frame) (token : Token) (next : State)
    (taken : shift (.factor none stack) token = some next) :
    shift (.expression stack) token = some next := by
  cases token with
  | ifWord => simp [shift, beginFactor] at taken
  | _ => exact taken

theorem shift_arguments_of_expression (callee : String) (pending : Pending) (stack : List Frame)
    (token : Token) (next : State)
    (taken : shift (.expression (.argument pending callee [] :: stack)) token = some next) :
    shift (.arguments callee pending stack) token = some next := by
  cases token with
  | closeParen => simp [shift, beginExpression, beginFactor] at taken
  | _ => exact taken

-- The induction follows the derivation, with every stack at once, since the parts of an expression
-- stand inside frames of their own.
theorem leads_of_derives {symbol : Symbol} {tokens : List Token} {trees : List Node}
    (derivation : Derives symbol tokens trees) : Leads symbol tokens trees := by
  induction derivation with
  | @conditional _ _ _ condition consequent alternative _ _ _ ih₁ ih₂ ih₃ =>
    rintro _ stack ⟨⟩
    -- Each word that divides the conditional closes the frame of the part in front of it.
    obtain ⟨_, reached₁, settled₁⟩ := ih₁ condition (.condition :: stack) rfl
    obtain ⟨_, reached₂, settled₂⟩ := ih₂ consequent (.consequent condition :: stack) rfl
    obtain ⟨final, reached₃, settled₃⟩ :=
      ih₃ alternative (.alternative condition consequent :: stack) rfl
    have opened : shift (.expression stack) .ifWord = some (.expression (.condition :: stack)) := rfl
    have turned := settled₁.shift_closing .thenWord (by decide)
    have turned' := settled₂.shift_closing .elseWord (by decide)
    have branches := Machine.shifts_through reached₂ turned' reached₃
    refine ⟨final, ?_, settled₃.alternative⟩
    rw [List.append_assoc, List.cons_append, Machine.shifts_cons opened]
    exact Machine.shifts_through reached₁ turned branches
  | plain derivation ih =>
    rintro _ stack ⟨⟩
    obtain ⟨final, reached, ended⟩ := ih _ stack rfl
    exact ⟨final, shifts_of_begins derivation.ne_nil reached (shift_expression_of_factor stack),
      .plain ended⟩
  | single _ ih =>
    rintro _ stack ⟨⟩
    exact ih _ none stack rfl
  | @continued _ _ left right op _ _ term operand =>
    rintro _ stack ⟨⟩
    obtain ⟨_, reached, ended⟩ := term left stack rfl
    obtain ⟨final, reached', ended'⟩ := operand right (some (left, op)) stack rfl
    exact ⟨final, Machine.shifts_through reached (ended.shift_operator op) reached', ended'⟩
  | number value =>
    rintro _ pending stack ⟨⟩
    exact ⟨_, rfl, .term⟩
  | identifier name =>
    rintro _ pending stack ⟨⟩
    exact ⟨_, rfl, .named⟩
  | group _ ih =>
    rintro _ pending stack ⟨⟩
    obtain ⟨_, reached, settled⟩ := ih _ (.group pending :: stack) rfl
    have opened : shift (.factor pending stack) .openParen =
        some (.expression (.group pending :: stack)) := rfl
    have closed := settled.shift_closing .closeParen (by decide)
    refine ⟨_, ?_, .term⟩
    rw [List.cons_append, Machine.shifts_cons opened]
    exact Machine.shifts_through reached closed rfl
  | emptyCall callee =>
    rintro _ pending stack ⟨⟩
    exact ⟨_, rfl, .term⟩
  | @call tokens _ callee derivation ih =>
    rintro _ pending stack ⟨⟩
    obtain ⟨others, value, _, rfl, reached, settled⟩ := ih pending callee [] stack
    -- Arguments do not begin with a closing parenthesis, so the call is not taken for an empty one.
    have entered := shifts_of_begins derivation.ne_nil reached
      (shift_arguments_of_expression callee pending stack)
    have closed := settled.shift_closing .closeParen (by decide)
    refine ⟨.term (join pending (.call callee (others ++ [value]))) stack, ?_, .term⟩
    have opened : shift (.named callee pending stack) .openParen =
        some (.arguments callee pending stack) := rfl
    have begun : shift (.factor pending stack) (.identifier callee) =
        some (.named callee pending stack) := rfl
    rw [List.cons_append, Machine.shifts_cons begun, List.cons_append, Machine.shifts_cons opened,
      Machine.shifts_concat, entered]
    simpa [resume, machine] using closed
  | last _ ih =>
    intro pending callee before stack
    obtain ⟨final, reached, settled⟩ := ih _ (.argument pending callee before :: stack) rfl
    exact ⟨[], _, final, rfl, reached, settled⟩
  | @further _ _ tree _ _ _ first rest =>
    intro pending callee before stack
    obtain ⟨_, reached, settled⟩ := first tree (.argument pending callee before :: stack) rfl
    obtain ⟨others, value, final, rfl, reached', settled'⟩ :=
      rest pending callee (tree :: before) stack
    have separated := settled.shift_closing .comma (by decide)
    exact ⟨tree :: others, value, final, rfl, Machine.shifts_through reached separated reached',
      by simpa using settled'⟩

theorem exists_settled {tokens : List Token} {tree : Node}
    (derivation : Derives .expression tokens [tree]) (stack : List Frame) :
    ∃ final, machine.shifts (.expression stack) tokens = some final ∧ Settled tree stack final :=
  leads_of_derives derivation tree stack rfl

theorem kind_of_shift_expression {stack : List Frame} {token : Token} {next : State}
    (taken : shift (.expression stack) token = some next) :
    token.kind ∈ [.ifWord, .number, .identifier, .openParen] := by
  cases token <;> simp [shift, beginExpression, beginFactor, Token.kind] at taken ⊢

theorem kind_of_derives {token : Token} {rest : List Token} {tree : Node}
    (derivation : Derives .expression (token :: rest) [tree]) :
    token.kind ∈ [.ifWord, .number, .identifier, .openParen] := by
  -- How an expression may begin shows in what is taken in front of it.
  obtain ⟨final, reached, -⟩ := exists_settled derivation []
  simp only [Machine.shifts, Option.bind_eq_some_iff] at reached
  obtain ⟨next, taken, -⟩ := reached
  exact kind_of_shift_expression taken

theorem isNamed_of_beginFactor {pending : Pending} {stack : List Frame} {token : Token}
    {next : State} (taken : beginFactor pending stack token = some next) :
    next.isNamed = decide (token.kind = .identifier) := by
  cases token <;> simp [beginFactor] at taken <;> subst taken <;> rfl

theorem isNamed_of_beginExpression {stack : List Frame} {token : Token} {next : State}
    (taken : beginExpression stack token = some next) :
    next.isNamed = decide (token.kind = .identifier) := by
  by_cases conditional : token = .ifWord
  · subst conditional
    obtain rfl : _ = next := by simpa [beginExpression] using taken
    rfl
  · rw [beginExpression_of_ne conditional] at taken
    exact isNamed_of_beginFactor taken

theorem isNamed_of_continueTerm {value : Node} {stack : List Frame} {token : Token} {next : State}
    (taken : continueTerm value stack token = some next) :
    next.isNamed = decide (token.kind = .identifier) := by
  cases token with
  | operator op =>
    obtain rfl : _ = next := by simpa [continueTerm] using taken
    rfl
  | _ =>
    rw [continueTerm_of_ne (by simp [Token.kind])] at taken
    obtain ⟨unnamed, closes⟩ := resume_closes taken
    simp [Token.kind] at closes ⊢ <;> exact unnamed

theorem isNamed_of_shift {state next : State} {token : Token}
    (taken : shift state token = some next) :
    next.isNamed = decide (token.kind = .identifier) := by
  cases state with
  | expression stack => exact isNamed_of_beginExpression taken
  | factor pending stack => exact isNamed_of_beginFactor taken
  | named name pending stack =>
    by_cases opened : token = .openParen
    · subst opened
      obtain rfl : _ = next := by simpa [shift] using taken
      rfl
    · rw [shift_named_of_ne opened] at taken
      exact isNamed_of_continueTerm taken
  | arguments callee pending stack =>
    by_cases closed : token = .closeParen
    · subst closed
      obtain rfl : _ = next := by simpa [shift] using taken
      rfl
    · rw [shift_arguments_of_ne closed] at taken
      exact isNamed_of_beginExpression taken
  | term value stack => exact isNamed_of_continueTerm taken

theorem isNamed_of_shifts {state final : State} {tokens : List Token}
    (reached : machine.shifts state tokens = some final) (unnamed : state.isNamed = false) :
    final.isNamed = endsWithName tokens := by
  rcases List.eq_nil_or_concat tokens with rfl | ⟨before, token, rfl⟩
  · obtain rfl : state = final := by simpa using reached
    exact unnamed
  · rw [List.concat_eq_append, Machine.shifts_concat, Option.bind_eq_some_iff] at reached
    obtain ⟨middle, -, taken⟩ := reached
    rw [List.concat_eq_append, Grammar.endsWithName_concat]
    exact isNamed_of_shift taken

-- A conditional is made whole branch by branch, so its frames are gone through in their order.
theorem Settled.completable {value : Node} {stack : List Frame} {state : State}
    (settled : Settled value stack state) : machine.Completable state := by
  -- One frame after the other is closed, and behind it a shorter stack is left to close.
  induction stack generalizing value state with
  | nil => exact ⟨[], value, by simp, state, rfl, settled.stop_eq⟩
  | cons frame stack ih =>
    have alternative (condition consequent : Node) :
        machine.Completable (.expression (.alternative condition consequent :: stack)) := by
      have last : Settled (.number literal) (.alternative condition consequent :: stack)
          (.term (.number literal) (.alternative condition consequent :: stack)) := .plain .term
      exact (ih last.alternative).of_shift (.number literal) (by simp [fillers]) rfl
    cases frame with
    | group pending =>
      have term : machine.Completable (.term (join pending value) stack) := ih (.plain .term)
      exact term.of_shift .closeParen (by simp [fillers])
        (settled.shift_closing .closeParen (by decide))
    | argument pending callee before =>
      have term : machine.Completable (.term (join pending (.call callee (value :: before).reverse)) stack) :=
        ih (.plain .term)
      exact term.of_shift .closeParen (by simp [fillers])
        (settled.shift_closing .closeParen (by decide))
    | alternative condition consequent => exact ih settled.alternative
    | consequent condition =>
      exact (alternative condition value).of_shift .elseWord (by simp [fillers])
        (settled.shift_closing .elseWord (by decide))
    | condition =>
      have branch : machine.Completable (.term (.number literal) (.consequent value :: stack)) :=
        (alternative value (.number literal)).of_shift .elseWord (by simp [fillers]) rfl
      have consequent : machine.Completable (.expression (.consequent value :: stack)) :=
        branch.of_shift (.number literal) (by simp [fillers]) rfl
      exact consequent.of_shift .thenWord (by simp [fillers])
        (settled.shift_closing .thenWord (by decide))

theorem completable (state : State) : machine.Completable state := by
  have filled (value : Node) (stack : List Frame) : machine.Completable (.term value stack) :=
    Settled.completable (.plain .term)
  cases state with
  | expression stack =>
    exact (filled (.number literal) stack).of_shift (.number literal) (by simp [fillers]) rfl
  | factor pending stack =>
    exact (filled (join pending (.number literal)) stack).of_shift (.number literal)
      (by simp [fillers]) rfl
  | named name pending stack => exact Settled.completable (.plain .named)
  | arguments callee pending stack =>
    exact (filled (join pending (.call callee [])) stack).of_shift .closeParen (by simp [fillers]) rfl
  | term value stack => exact filled value stack

end Kaleidoscope.Expression
