import Kaleidoscope.Machine.Program
import Kaleidoscope.Proofs.Machine.Relocation

/-! Names have no part in reading.

A machine passes names on from the tokens to the trees without looking at them. So its states can be
renamed together with the tokens, whether or not different names stay different.

Main statement: behind renamed tokens each machine stands in its renamed state, and says what it would
say, with the trees renamed.
-/

set_option autoImplicit false

namespace Kaleidoscope

variable (image : String → String)

def Token.rename : Token → Token
  | .identifier name => .identifier (image name)
  | token => token

@[simp] theorem Token.kind_rename (token : Token) : (token.rename image).kind = token.kind := by
  cases token <;> rfl

def Prototype.rename (prototype : Prototype) : Prototype :=
  ⟨image prototype.name, prototype.parameters.map image⟩

namespace Node

mutual

/-- The tree with the image of each name in its place. -/
def rename (image : String → String) : Node → Node
  | .number value => .number value
  | .identifier name => .identifier (image name)
  | .binary left op right => .binary (left.rename image) op (right.rename image)
  | .call callee arguments => .call (image callee) (renameEach image arguments)
  | .conditional condition consequent alternative =>
      .conditional (condition.rename image) (consequent.rename image) (alternative.rename image)
  | .definition prototype body => .definition (prototype.rename image) (body.rename image)
  | .declaration prototype => .declaration (prototype.rename image)

def renameEach (image : String → String) : List Node → List Node
  | [] => []
  | node :: rest => node.rename image :: renameEach image rest

end

theorem renameEach_eq (nodes : List Node) : renameEach image nodes = nodes.map (rename image) := by
  induction nodes with
  | nil => rfl
  | cons node rest ih => exact congrArg (node.rename image :: ·) ih

end Node

namespace Expression

def Pending.rename (pending : Pending) : Pending :=
  pending.map fun operand => (operand.1.rename image, operand.2)

def Frame.rename : Frame → Frame
  | .group pending => .group (Pending.rename image pending)
  | .argument pending callee before =>
      .argument (Pending.rename image pending) (image callee) (before.map (Node.rename image))
  | .condition => .condition
  | .consequent test => .consequent (test.rename image)
  | .alternative test chosen => .alternative (test.rename image) (chosen.rename image)

def State.rename : State → State
  | .expression stack => .expression (stack.map (Frame.rename image))
  | .factor pending stack => .factor (Pending.rename image pending) (stack.map (Frame.rename image))
  | .named name pending stack =>
      .named (image name) (Pending.rename image pending) (stack.map (Frame.rename image))
  | .arguments callee pending stack =>
      .arguments (image callee) (Pending.rename image pending) (stack.map (Frame.rename image))
  | .term value stack => .term (value.rename image) (stack.map (Frame.rename image))

variable (pending : Pending) (value : Node) (stack : List Frame) (token : Token)

theorem join_rename :
    join (Pending.rename image pending) (value.rename image) = (join pending value).rename image := by
  cases pending <;> rfl

theorem join_call_rename (callee : String) (arguments : List Node) :
    join (Pending.rename image pending) (.call (image callee) (arguments.map (Node.rename image))) =
      (join pending (.call callee arguments)).rename image := by
  rw [← join_rename, ← Node.renameEach_eq]
  rfl

theorem beginFactor_rename :
    beginFactor (Pending.rename image pending) (stack.map (Frame.rename image)) (token.rename image) =
      (beginFactor pending stack token).map (State.rename image) := by
  cases token with
  | number value => exact congrArg (some ∘ (State.term · _)) (join_rename image pending (.number value))
  | _ => rfl

theorem beginExpression_rename :
    beginExpression (stack.map (Frame.rename image)) (token.rename image) =
      (beginExpression stack token).map (State.rename image) := by
  have factor := beginFactor_rename image none stack token
  cases token with
  | ifWord => rfl
  | _ => exact factor

theorem resume_rename :
    resume (value.rename image) (stack.map (Frame.rename image)) (token.rename image) =
      (resume value stack token).map (State.rename image) := by
  induction stack generalizing value with
  | nil => rfl
  | cons frame stack ih =>
    cases frame with
    | alternative condition consequent => exact ih (.conditional condition consequent value)
    | group pending =>
      cases token with
      | closeParen => exact congrArg (some ∘ (State.term · _)) (join_rename image pending value)
      | _ => rfl
    | argument pending callee before =>
      cases token with
      | closeParen =>
        have called := join_call_rename image pending callee (value :: before).reverse
        rw [List.map_reverse] at called
        exact congrArg (some ∘ (State.term · _)) called
      | _ => rfl
    | condition | consequent => cases token <;> rfl

theorem conclude_rename :
    conclude (value.rename image) (stack.map (Frame.rename image)) =
      (conclude value stack).map (Node.rename image) := by
  induction stack generalizing value with
  | nil => rfl
  | cons frame stack ih =>
    cases frame with
    | alternative condition consequent => exact ih (.conditional condition consequent value)
    | group | argument | condition | consequent => rfl

theorem continueTerm_rename :
    continueTerm (value.rename image) (stack.map (Frame.rename image)) (token.rename image) =
      (continueTerm value stack token).map (State.rename image) := by
  have resumed := resume_rename image value stack token
  cases token with
  | operator => rfl
  | _ => exact resumed

theorem shift_rename (state : State) (token : Token) :
    shift (state.rename image) (token.rename image) = (shift state token).map (State.rename image) := by
  cases state with
  | expression stack => exact beginExpression_rename image stack token
  | factor pending stack => exact beginFactor_rename image pending stack token
  | term value stack => exact continueTerm_rename image value stack token
  | named name pending stack =>
    have continued := continueTerm_rename image (join pending (.identifier name)) stack token
    rw [← join_rename] at continued
    cases token with
    | openParen => rfl
    | _ => exact continued
  | arguments callee pending stack =>
    have begun := beginExpression_rename image (.argument pending callee [] :: stack) token
    cases token with
    | closeParen => exact congrArg (some ∘ (State.term · _)) (join_call_rename image pending callee [])
    | _ => exact begun

theorem stop_rename (state : State) :
    stop (state.rename image) = (stop state).map (Node.rename image) := by
  cases state with
  | expression | factor | arguments => rfl
  | term value stack => exact conclude_rename image value stack
  | named name pending stack =>
    have concluded := conclude_rename image (join pending (.identifier name)) stack
    rwa [← join_rename] at concluded

end Expression

namespace Parameters

def State.rename : State → State
  | .first => .first
  | .named names => .named (names.map image)
  | .separated names => .separated (names.map image)

theorem shift_rename (state : State) (token : Token) :
    shift (state.rename image) (token.rename image) = (shift state token).map (State.rename image) := by
  cases state <;> cases token <;> rfl

theorem stop_rename (state : State) :
    stop (state.rename image) = (stop state).map (List.map image) := by
  cases state with
  | first | separated => rfl
  | named names => exact congrArg Except.ok (List.map_reverse ..).symm

end Parameters

namespace Prototype

def State.rename : State → State
  | .start => .start
  | .named name => .named (image name)
  | .within name parameters => .within (image name) (parameters.rename image)

def Progress.rename : Progress → Progress
  | .pending state => .pending (state.rename image)
  | .complete prototype => .complete (prototype.rename image)

theorem shift_rename (state : State) (token : Token) :
    shift (state.rename image) (token.rename image) =
      (shift state token).map (Progress.rename image) := by
  cases state with
  | start | named => cases token <;> rfl
  | within name parameters =>
    have stopped := Parameters.stop_rename image parameters
    have shifted := Parameters.shift_rename image parameters token
    cases token with
    | closeParen =>
      simp only [State.rename, Token.rename, shift, stopped]
      cases Parameters.stop parameters <;> rfl
    | _ =>
      simp only [State.rename, Token.rename, shift] at shifted ⊢
      simp only [shifted, Option.map_map]
      rfl

theorem expected_rename (state : State) : expected (state.rename image) = expected state := by
  cases state with
  | start | named => rfl
  | within name parameters =>
    simp only [State.rename, expected, Parameters.stop_rename]
    cases Parameters.stop parameters <;> rfl

end Prototype

namespace Form

def State.rename : State → State
  | .start => .start
  | .head role state => .head role (state.rename image)
  | .body prototype state => .body (prototype.rename image) (state.rename image)
  | .declared prototype => .declared (prototype.rename image)
  | .expression state => .expression (state.rename image)

theorem behindHead_rename (role : Role) (progress : Prototype.Progress) :
    behindHead role (progress.rename image) = (behindHead role progress).rename image := by
  cases progress <;> cases role <;> rfl

theorem shift_rename (state : State) (token : Token) :
    shift (state.rename image) (token.rename image) = (shift state token).map (State.rename image) := by
  have inner (state : Expression.State) := Expression.shift_rename image state token
  cases state with
  | start => cases token <;> rfl
  | head role state =>
    simp only [State.rename, shift, Prototype.shift_rename, Option.map_map]
    exact congrArg (Option.map · _) (funext (behindHead_rename image role))
  | body prototype state =>
    simp only [State.rename, shift, inner, Option.map_map]
    rfl
  | declared => rfl
  | expression state =>
    simp only [State.rename, shift, inner, Option.map_map]
    rfl

theorem stop_rename (state : State) :
    stop (state.rename image) = (stop state).map (Node.rename image) := by
  cases state with
  | start | declared => rfl
  | head role state => exact congrArg Except.error (Prototype.expected_rename image state)
  | expression state => exact Expression.stop_rename image state
  | body prototype state =>
    simp only [State.rename, stop, Expression.stop_rename]
    cases Expression.stop state <;> rfl

end Form

namespace Program

def State.rename (state : State) : State :=
  ⟨state.before.map (Node.rename image), state.form.rename image⟩

theorem shift_rename (state : State) (token : Token) :
    shift (state.rename image) (token.rename image) = (shift state token).map (State.rename image) := by
  obtain ⟨before, form⟩ := state
  have begun : Form.shift .start (token.rename image) =
      (Form.shift .start token).map (Form.State.rename image) :=
    Form.shift_rename image .start token
  simp only [State.rename, shift, Form.shift_rename]
  cases Form.shift form token with
  | some next => rfl
  | none =>
    simp only [Option.map_none, Form.stop_rename]
    cases Form.stop form with
    | error expectation => rfl
    | ok node =>
      simp only [Except.map, begun, Option.map_map]
      rfl

theorem stop_rename (state : State) (lookahead : Token.Kind) :
    stop (state.rename image) lookahead =
      (stop state lookahead).map (List.map (Node.rename image)) := by
  obtain ⟨before, form⟩ := state
  have stopped := Form.stop_rename image form
  cases form with
  | start =>
    simp only [State.rename, Form.State.rename, stop, ← List.map_reverse]
    split <;> rfl
  | head | body | declared | expression =>
    simp only [Form.State.rename] at stopped
    simp only [State.rename, Form.State.rename, stop, stopped]
    cases Form.stop _ with
    | error => rfl
    | ok node =>
      simp only [Except.map, ← List.map_cons, ← List.map_reverse]
      split <;> rfl

end Program

def Lexeme.rename (lexeme : Lexeme) : Lexeme :=
  match lexeme.token with
  | .identifier name => ⟨.identifier (image name), image name, lexeme.position⟩
  | _ => lexeme

theorem Lexeme.token_rename (lexeme : Lexeme) :
    (lexeme.rename image).token = lexeme.token.rename image := by
  obtain ⟨token, text, position⟩ := lexeme
  cases token <;> rfl

theorem Lexeme.position_rename (lexeme : Lexeme) :
    (lexeme.rename image).position = lexeme.position := by
  obtain ⟨token, text, position⟩ := lexeme
  cases token <;> rfl

/-- Only names are changed. -/
theorem Lexeme.rename_eq_self {lexeme : Lexeme} (other : lexeme.kind ≠ .identifier) :
    lexeme.rename image = lexeme := by
  obtain ⟨token, text, position⟩ := lexeme
  cases token with
  | identifier => exact absurd rfl other
  | _ => rfl

def Item.rename : Item → Item
  | .ok lexeme => .ok (lexeme.rename image)
  | .error error => .error error

theorem ParseError.relocate_id (error : ParseError) : error.relocate id = error := by
  cases error with
  | unexpected => rfl
  | lexical error => cases error <;> rfl

namespace Machine

variable {State Result : Type} {machine : Machine State Result} {rename : State → State}
  {result : Result → Result}

/-- A machine whose states are renamed with the tokens says the same of the renamed lexemes, in the new
names. -/
theorem judge_rename
    (follows : ∀ state token, machine.shift (rename state) (token.rename image) =
      (machine.shift state token).map rename)
    (stops : ∀ state lookahead, machine.stop (rename state) lookahead =
      (machine.stop state lookahead).map result)
    (last : Item) (state : State) (lexemes : List Lexeme) :
    machine.judge (last.rename image) (rename state) (lexemes.map (Lexeme.rename image)) =
      (machine.judge last state lexemes).map result := by
  have kinds (lexeme : Lexeme) : (lexeme.rename image).kind = lexeme.kind := by
    rw [Lexeme.kind, Lexeme.token_rename, Token.kind_rename, Lexeme.kind]
  have shifts (state : State) (lexeme : Lexeme) :
      machine.shift (rename state) (lexeme.rename image).token =
        (machine.shift state lexeme.token).map rename := by
    rw [Lexeme.token_rename, follows]
  have written : last.rename image = last.rewrite (Lexeme.rename image) id := by
    cases last with
    | ok => rfl
    | error error => cases error <;> rfl
  rw [written, judge_rewrite rename result kinds (fun lexeme => lexeme.position_rename image) shifts stops]
  cases machine.judge last state lexemes with
  | ok => rfl
  | error error => exact congrArg Except.error error.relocate_id

variable {kind : Token.Kind} {notEnd : kind ≠ .endOfInput}

theorem shift_behind_rename
    (follows : ∀ state token, machine.shift (rename state) (token.rename image) =
      (machine.shift state token).map rename)
    {initial : State} (fixed : rename initial = initial) (state : Option State) (token : Token) :
    (machine.behind kind notEnd initial).shift (state.map rename) (token.rename image) =
      ((machine.behind kind notEnd initial).shift state token).map (Option.map rename) := by
  cases state with
  | none =>
    simp only [behind, Option.map_none, Token.kind_rename]
    split
    · simp [fixed]
    · rfl
  | some state =>
    simp only [behind, Option.map_some, follows, Option.map_map]
    rfl

theorem stop_behind_rename
    (stops : ∀ state lookahead, machine.stop (rename state) lookahead =
      (machine.stop state lookahead).map result)
    {initial : State} (state : Option State) (lookahead : Token.Kind) :
    (machine.behind kind notEnd initial).stop (state.map rename) lookahead =
      ((machine.behind kind notEnd initial).stop state lookahead).map result := by
  cases state with
  | none => rfl
  | some state => exact stops state lookahead

end Machine

end Kaleidoscope
