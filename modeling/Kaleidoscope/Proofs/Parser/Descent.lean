import Kaleidoscope.Proofs.Parser.Equations

/-! Recursive descent.

The rules of the grammar call each other, and some of them repeat themselves. Here they are procedures
that may call each other to a given depth only.

Main statement: for every parser some depth is enough, and then a procedure comes to the outcome of its
action; the depth grows with the tokens that are left and not with anything else.
-/

set_option autoImplicit false

namespace Kaleidoscope.Parser

open Parser.Action (andThen done refused peek)

variable {α β : Type}

abbrev Bounded (α : Type) := ExceptT ParseError (StateT Parser Option) α

namespace Bounded

def lookahead : Bounded Lexeme := fun parser => some (.ok parser.current, parser)

def ofAction (action : Action α) : Bounded α := fun parser => some (action parser)

def ask (kind : Token.Kind) : Bounded Lexeme := ofAction (expect kind)

end Bounded

open Bounded (lookahead ofAction ask)

/-- A repetition is a procedure of its own, with what has been read before. -/
inductive Procedure : Type → Type where
  | parameters : Procedure (List String)
  | furtherParameters (names : List String) : Procedure (List String)
  | expression : Procedure Node
  | conditional : Procedure Node
  | term : Procedure Node
  | operations (left : Node) : Procedure Node
  | factor : Procedure Node
  | call (callee : String) : Procedure Node
  | arguments (callee : String) (before : List Node) : Procedure Node
  | definition : Procedure Node
  | declaration : Procedure Node
  | form : Procedure Node
  | furtherForms (before : List Node) : Procedure (List Node)

namespace Procedure

def action : Procedure α → Action α
  | parameters => Parser.parameters
  | furtherParameters names => Parser.furtherParameters names
  | expression => Parser.expression
  | conditional => Parser.conditional
  | term => Parser.term
  | operations left => Parser.operations left
  | factor => Parser.factor
  | call callee => Parser.call callee
  | arguments callee before => Parser.arguments callee before
  | definition => Parser.definition
  | declaration => Parser.declaration
  | form => Parser.form
  | furtherForms before => Parser.furtherForms before

/-- What a procedure does, by what is done where it calls for another one. -/
def body (run : {β : Type} → Procedure β → Bounded β) : Procedure α → Bounded α
  | parameters => do
      if (← lookahead).kind = .identifier then
        let lexeme ← ask .identifier
        run (furtherParameters [lexeme.token.name])
      else
        return []
  | furtherParameters names => do
      if (← lookahead).kind = .comma then
        let _ ← ask .comma
        let lexeme ← ask .identifier
        run (furtherParameters (lexeme.token.name :: names))
      else
        return names.reverse
  | expression => do
      if (← lookahead).kind = .ifWord then
        run conditional
      else
        run term
  | conditional => do
      let _ ← ask .ifWord
      let condition ← run expression
      let _ ← ask .thenWord
      let consequent ← run expression
      let _ ← ask .elseWord
      let alternative ← run expression
      return .conditional condition consequent alternative
  | term => do
      let left ← run factor
      run (operations left)
  | operations left => do
      match (← lookahead).token with
      | .operator op =>
          let _ ← ask .operator
          let right ← run factor
          run (operations (.binary left op right))
      | _ => return left
  | factor => do
      match (← lookahead).token with
      | .number value =>
          let _ ← ask .number
          return .number value
      | .identifier name =>
          let _ ← ask .identifier
          if (← lookahead).kind = .openParen then
            run (call name)
          else
            return .identifier name
      | .openParen =>
          let _ ← ask .openParen
          let value ← run expression
          let _ ← ask .closeParen
          return value
      | _ => ofAction (refused .factor)
  | call callee => do
      let _ ← ask .openParen
      if (← lookahead).kind = .closeParen then
        let _ ← ask .closeParen
        return .call callee []
      else
        run (arguments callee [])
  | arguments callee before => do
      let value ← run expression
      if (← lookahead).kind = .comma then
        let _ ← ask .comma
        run (arguments callee (value :: before))
      else
        let _ ← ask .closeParen
        return .call callee (value :: before).reverse
  | definition => do
      let _ ← ask .define
      let lexeme ← ask .identifier
      let _ ← ask .openParen
      let names ← run parameters
      let _ ← ask .closeParen
      let body ← run expression
      return .definition ⟨lexeme.token.name, names⟩ body
  | declaration => do
      let _ ← ask .declare
      let lexeme ← ask .identifier
      let _ ← ask .openParen
      let names ← run parameters
      let _ ← ask .closeParen
      return .declaration ⟨lexeme.token.name, names⟩
  | form => do
      match (← lookahead).kind with
      | .define => run definition
      | .declare => run declaration
      | _ => run expression
  | furtherForms before => do
      if (← lookahead).kind = .endOfInput then
        return before.reverse
      else
        let tree ← run form
        run (furtherForms (tree :: before))

/-- Run a procedure in which no more than so many calls are open at a time. -/
def descend : Nat → {α : Type} → Procedure α → Bounded α
  | 0, _, _ => fun _ => none
  | depth + 1, _, procedure => procedure.body (descend depth)

/-- A procedure that calls another one before it has taken anything has the higher rank. -/
def rank : Procedure α → Nat
  | furtherForms _ => 4
  | form | arguments .. => 3
  | expression => 2
  | term => 1
  | _ => 0

-- One token taken counts for more than all ranks together.
def effort (procedure : Procedure α) (parser : Parser) : Nat := 5 * parser.remaining + procedure.rank

theorem rank_lt (procedure : Procedure α) : procedure.rank < 5 := by
  cases procedure <;> simp [rank]

theorem effort_lt_of_remaining_lt {procedure : Procedure α} {other : Procedure β}
    {parser final : Parser} (nearer : final.remaining < parser.remaining) :
    other.effort final < procedure.effort parser := by
  have small := other.rank_lt
  unfold effort
  omega

theorem effort_lt_of_rank_lt {procedure : Procedure α} {other : Procedure β} (parser : Parser)
    (lower : other.rank < procedure.rank) : other.effort parser < procedure.effort parser :=
  Nat.add_lt_add_left lower _

end Procedure

/-- The bounded reading has got somewhere, and this is where the action gets. -/
def Settles (bounded : Bounded α) (action : Action α) (parser : Parser) : Prop :=
  bounded parser = some (action parser)

namespace Settles

variable {bounded : Bounded α} {action : Action α} {next : α → Bounded β} {following : α → Action β}
  {parser : Parser}

theorem done (value : α) (parser : Parser) : Settles (pure value) (Action.done value) parser := rfl

theorem lift (action : Action α) (parser : Parser) : Settles (ofAction action) action parser := rfl

theorem bind (first : Settles bounded action parser)
    (second : ∀ value final, action parser = (.ok value, final) →
      Settles (next value) (following value) final) :
    Settles (bounded >>= next) (action.andThen following) parser := by
  have unfolded : (bounded >>= next) parser = (bounded parser).bind fun outcome =>
      ExceptT.bindCont next outcome.1 outcome.2 := rfl
  unfold Settles
  rw [unfolded, first, Option.bind_some]
  cases read : action parser with
  | mk outcome final =>
    cases outcome with
    | error error => exact congrArg some (Action.andThen_of_error read following).symm
    | ok value =>
      rw [Action.andThen_of_ok read]
      exact second value final read

theorem look {next : Lexeme → Bounded β} {following : Lexeme → Action β}
    (second : Settles (next parser.current) (following parser.current) parser) :
    Settles (lookahead >>= next) (peek following) parser := second

theorem ask {kind : Token.Kind} (notEnd : kind ≠ .endOfInput) {next : Lexeme → Bounded β}
    {following : Lexeme → Action β}
    (second : ∀ lexeme final, final.remaining < parser.remaining →
      Settles (next lexeme) (following lexeme) final) :
    Settles (Bounded.ask kind >>= next) ((expect kind).andThen following) parser :=
  bind rfl fun lexeme final read => second lexeme final (remaining_lt_of_expect notEnd read)

theorem tree {bounded : Bounded Node} {action : Action Node} (productive : action.Productive)
    {next : Node → Bounded β} {following : Node → Action β} (first : Settles bounded action parser)
    (second : ∀ value final, final.remaining < parser.remaining →
      Settles (next value) (following value) final) :
    Settles (bounded >>= next) (action.andThen following) parser :=
  bind first fun value final read => second value final (productive.remaining_lt read)

end Settles

theorem parameters_remaining_le {parser final : Parser} {names : List String}
    (read : parameters parser = (.ok names, final)) : final.remaining ≤ parser.remaining := by
  obtain ⟨taken, -, takes, -⟩ := run_takes read
  exact Nat.le_of_add_right_le takes.remaining_le

theorem Procedure.body_settles {run : {β : Type} → Procedure β → Bounded β} (procedure : Procedure α)
    (parser : Parser)
    (calls : ∀ {β : Type} (other : Procedure β) (final : Parser),
      other.effort final < procedure.effort parser → Settles (run other) other.action final) :
    Settles (procedure.body run) procedure.action parser := by
  -- What a procedure calls is nearer to the end, or of a lower rank.
  have lower {β : Type} (other : Procedure β) (below : other.rank < procedure.rank) :
      Settles (run other) other.action parser :=
    calls other parser (effort_lt_of_rank_lt parser below)
  have later {β : Type} (other : Procedure β) {final : Parser}
      (nearer : final.remaining < parser.remaining) : Settles (run other) other.action final :=
    calls other final (effort_lt_of_remaining_lt nearer)
  cases procedure with
  | parameters =>
    rw [action, parameters_eq]
    refine .look ?_
    split
    · exact .ask (by decide) fun lexeme final nearer => later (furtherParameters _) nearer
    · exact .done [] parser
  | furtherParameters names =>
    rw [action, furtherParameters_eq]
    refine .look ?_
    split
    · refine .ask (by decide) fun _ _ comma => ?_
      refine .ask (by decide) fun lexeme _ further => ?_
      exact later (furtherParameters _) (by omega)
    · exact .done names.reverse parser
  | expression =>
    rw [action, expression_eq]
    refine .look ?_
    split
    · exact lower conditional (by decide)
    · exact lower term (by decide)
  | conditional =>
    rw [action, conditional_eq]
    refine .ask (by decide) fun _ _ ifWord => ?_
    refine .tree expression_productive (later expression ifWord) fun condition _ first => ?_
    refine .ask (by decide) fun _ _ thenWord => ?_
    refine .tree expression_productive (later expression (by omega)) fun consequent _ second => ?_
    refine .ask (by decide) fun _ _ elseWord => ?_
    refine .tree expression_productive (later expression (by omega)) fun alternative final _ => ?_
    exact .done _ final
  | term =>
    rw [action, term_eq]
    refine .tree factor_productive (lower factor (by decide)) fun left _ nearer => ?_
    exact later (operations left) nearer
  | operations left =>
    rw [action, operations_eq]
    refine .look ?_
    generalize parser.current.token = token
    cases token with
    | operator op =>
      refine .ask (by decide) fun _ _ operator => ?_
      refine .tree factor_productive (later factor operator) fun right _ operand => ?_
      exact later (operations _) (by omega)
    | _ => exact .done left parser
  | factor =>
    rw [action, factor_eq]
    refine .look ?_
    generalize parser.current.token = token
    cases token with
    | number value => exact .ask (by decide) fun _ final _ => .done (Node.number value) final
    | identifier name =>
      refine .ask (by decide) fun _ final nearer => .look ?_
      split
      · exact later (call name) nearer
      · exact .done (Node.identifier name) final
    | openParen =>
      refine .ask (by decide) fun _ _ opened => ?_
      refine .tree expression_productive (later expression opened) fun value _ inner => ?_
      exact .ask (by decide) fun _ final _ => .done value final
    | _ => exact .lift (refused .factor) parser
  | call callee =>
    rw [action, call_eq]
    refine .ask (by decide) fun _ final opened => .look ?_
    split
    · exact .ask (by decide) fun _ final _ => .done _ final
    · exact later (arguments callee []) opened
  | arguments callee before =>
    rw [action, arguments_eq]
    refine .tree expression_productive (lower expression (by simp [rank])) fun value _ first => .look ?_
    split
    · refine .ask (by decide) fun _ _ comma => ?_
      exact later (arguments callee _) (by omega)
    · exact .ask (by decide) fun _ final _ => .done _ final
  | definition =>
    rw [action, definition_eq]
    refine .ask (by decide) fun _ _ define => ?_
    refine .ask (by decide) fun lexeme _ name => ?_
    refine .ask (by decide) fun _ _ opened => ?_
    refine .bind (later parameters (by omega)) fun names _ read => ?_
    have behind := parameters_remaining_le read
    refine .ask (by decide) fun _ _ closed => ?_
    refine .tree expression_productive (later expression (by omega)) fun body final _ => ?_
    exact .done _ final
  | declaration =>
    rw [action, declaration_eq]
    refine .ask (by decide) fun _ _ declare => ?_
    refine .ask (by decide) fun lexeme _ name => ?_
    refine .ask (by decide) fun _ _ opened => ?_
    refine .bind (later parameters (by omega)) fun names _ _ => ?_
    exact .ask (by decide) fun _ final _ => .done _ final
  | form =>
    rw [action, form_eq]
    refine .look ?_
    generalize parser.current.kind = kind
    cases kind with
    | define => exact lower definition (by decide)
    | declare => exact lower declaration (by decide)
    | _ => exact lower expression (by decide)
  | furtherForms before =>
    rw [action, furtherForms_eq]
    refine .look ?_
    split
    · exact .done before.reverse parser
    · refine .tree form_productive (lower form (by simp [rank])) fun tree _ nearer => ?_
      exact later (furtherForms _) nearer

theorem Procedure.descend_settles {procedure : Procedure α} {parser : Parser} {depth : Nat}
    (enough : procedure.effort parser < depth) : Settles (descend depth procedure) procedure.action parser := by
  induction depth generalizing α procedure parser with
  | zero => exact absurd enough (Nat.not_lt_zero _)
  | succ depth ih =>
    exact procedure.body_settles parser fun other final less =>
      ih (Nat.lt_of_lt_of_le less (Nat.le_of_lt_succ enough))

end Kaleidoscope.Parser
