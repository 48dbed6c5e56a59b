import Kaleidoscope.Machine.Expression
import Kaleidoscope.Proofs.Grammar.Fusion

/-! What a state in the middle of an expression has read.

Every frame on the stack keeps the beginning of a derivation: the tokens that it has been read from
and the trees of the parts that are whole. A token that is taken adds to the beginnings, and at the
end the beginnings make up one derivation.

Main statement: where reading may stop, the tokens derive the tree.
-/

set_option autoImplicit false

namespace Kaleidoscope.Expression

open Grammar (Symbol Derives)

section
variable {token : Token}

theorem beginExpression_of_ne (other : token ≠ .ifWord) (stack : List Frame) :
    beginExpression stack token = beginFactor none stack token := by
  unfold beginExpression
  split
  · exact absurd rfl other
  · rfl

theorem continueTerm_of_ne (other : token.kind ≠ .operator) (value : Node) (stack : List Frame) :
    continueTerm value stack token = resume value stack token := by
  unfold continueTerm
  split
  · exact absurd rfl other
  · rfl

theorem shift_named_of_ne (other : token ≠ .openParen) (name : String) (pending : Pending)
    (stack : List Frame) :
    shift (.named name pending stack) token =
      continueTerm (join pending (.identifier name)) stack token := by
  unfold shift
  split <;> simp_all

theorem shift_arguments_of_ne (other : token ≠ .closeParen) (callee : String) (pending : Pending)
    (stack : List Frame) :
    shift (.arguments callee pending stack) token =
      beginExpression (.argument pending callee [] :: stack) token := by
  unfold shift
  split <;> simp_all

end

/-- The tokens of a left operand and its operator. -/
inductive PendingReads : Pending → List Token → Prop where
  | none : PendingReads none []
  | some {left : Node} {tokens : List Token} (op : Operator) :
      Derives .term tokens [left] → PendingReads (some (left, op)) (tokens ++ [.operator op])

/-- The tokens of arguments, each with the comma behind it; the last argument stands first. -/
inductive ArgumentsRead : List Node → List Token → Prop where
  | nil : ArgumentsRead [] []
  | cons {before : List Node} {value : Node} {first second : List Token} :
      ArgumentsRead before first → Derives .expression second [value] →
      ArgumentsRead (value :: before) (first ++ second ++ [.comma])

inductive StackReads : List Frame → List Token → Prop where
  | nil : StackReads [] []
  | group {pending : Pending} {stack : List Frame} {first second : List Token} :
      StackReads stack first → PendingReads pending second →
      StackReads (.group pending :: stack) (first ++ second ++ [.openParen])
  | argument {pending : Pending} {before : List Node} {stack : List Frame}
      {first second third : List Token} (callee : String) :
      StackReads stack first → PendingReads pending second → ArgumentsRead before third →
      StackReads (.argument pending callee before :: stack)
        (first ++ second ++ .identifier callee :: .openParen :: third)
  | condition {stack : List Frame} {first : List Token} :
      StackReads stack first → StackReads (.condition :: stack) (first ++ [.ifWord])
  | consequent {condition : Node} {stack : List Frame} {first second : List Token} :
      StackReads stack first → Derives .expression second [condition] →
      StackReads (.consequent condition :: stack) (first ++ .ifWord :: second ++ [.thenWord])
  | alternative {condition consequent : Node} {stack : List Frame}
      {first second third : List Token} :
      StackReads stack first → Derives .expression second [condition] →
      Derives .expression third [consequent] →
      StackReads (.alternative condition consequent :: stack)
        (first ++ .ifWord :: second ++ .thenWord :: third ++ [.elseWord])

inductive StateReads : State → List Token → Prop where
  | expression {stack : List Frame} {first : List Token} :
      StackReads stack first → StateReads (.expression stack) first
  | factor {pending : Pending} {stack : List Frame} {first second : List Token} :
      StackReads stack first → PendingReads pending second →
      StateReads (.factor pending stack) (first ++ second)
  | named {pending : Pending} {stack : List Frame} {first second : List Token} (name : String) :
      StackReads stack first → PendingReads pending second →
      StateReads (.named name pending stack) (first ++ second ++ [.identifier name])
  | arguments {pending : Pending} {stack : List Frame} {first second : List Token}
      (callee : String) :
      StackReads stack first → PendingReads pending second →
      StateReads (.arguments callee pending stack)
        (first ++ second ++ [.identifier callee, .openParen])
  | term {value : Node} {stack : List Frame} {first second : List Token} :
      StackReads stack first → Derives .term second [value] →
      StateReads (.term value stack) (first ++ second)

theorem PendingReads.join {pending : Pending} {first second : List Token} {value : Node}
    (waiting : PendingReads pending first) (factor : Derives .factor second [value]) :
    Derives .term (first ++ second) [join pending value] := by
  cases waiting with
  | none => exact factor.single
  | some op term => simpa [Expression.join] using term.continued op factor

theorem ArgumentsRead.complete {before : List Node} {first second : List Token} {trees : List Node}
    (read : ArgumentsRead before first) (last : Derives .arguments second trees) :
    Derives .arguments (first ++ second) (before.reverse ++ trees) := by
  induction read generalizing second trees with
  | nil => exact last
  | cons _ value ih => simpa using ih (value.further last)

theorem PendingReads.number {pending : Pending} {stack : List Frame} {first second : List Token}
    (enclosed : StackReads stack first) (waiting : PendingReads pending second) (value : Binary64) :
    StateReads (.term (Expression.join pending (.number value)) stack)
      (first ++ second ++ [.number value]) := by
  rw [List.append_assoc]
  exact .term enclosed (waiting.join (.number value))

theorem beginFactor_reads {pending : Pending} {stack : List Frame} {first second : List Token}
    {token : Token} {next : State} (enclosed : StackReads stack first)
    (waiting : PendingReads pending second) (taken : beginFactor pending stack token = some next) :
    StateReads next (first ++ second ++ [token]) := by
  cases token with
  | number value =>
    obtain rfl : _ = next := by simpa [beginFactor] using taken
    exact waiting.number enclosed value
  | identifier name =>
    obtain rfl : _ = next := by simpa [beginFactor] using taken
    exact .named name enclosed waiting
  | openParen =>
    obtain rfl : _ = next := by simpa [beginFactor] using taken
    exact .expression (.group enclosed waiting)
  | _ => simp [beginFactor] at taken

theorem beginExpression_reads {stack : List Frame} {first : List Token} {token : Token}
    {next : State} (enclosed : StackReads stack first)
    (taken : beginExpression stack token = some next) : StateReads next (first ++ [token]) := by
  cases token with
  | ifWord =>
    obtain rfl : _ = next := by simpa [beginExpression] using taken
    exact .expression (.condition enclosed)
  | _ =>
    rw [beginExpression_of_ne (by simp)] at taken
    simpa using beginFactor_reads enclosed .none taken

theorem resume_reads {value : Node} {stack : List Frame} {first second : List Token}
    {token : Token} {next : State} (enclosed : StackReads stack first)
    (whole : Derives .expression second [value]) (taken : resume value stack token = some next) :
    StateReads next (first ++ second ++ [token]) := by
  induction enclosed generalizing value second with
  | nil => simp [resume] at taken
  | group enclosed waiting =>
    cases token with
    | closeParen =>
      obtain rfl : _ = next := by simpa [resume] using taken
      simpa using StateReads.term enclosed (waiting.join (.group whole))
    | _ => simp [resume] at taken
  | argument callee enclosed waiting read =>
    cases token with
    | comma =>
      obtain rfl : _ = next := by simpa [resume] using taken
      simpa using StateReads.expression (.argument callee enclosed waiting (read.cons whole))
    | closeParen =>
      obtain rfl : _ = next := by simpa [resume] using taken
      have called := Derives.call callee (read.complete whole.last)
      simpa using StateReads.term enclosed (waiting.join called)
    | _ => simp [resume] at taken
  | condition enclosed =>
    cases token with
    | thenWord =>
      obtain rfl : _ = next := by simpa [resume] using taken
      simpa using StateReads.expression (.consequent enclosed whole)
    | _ => simp [resume] at taken
  | consequent enclosed condition =>
    cases token with
    | elseWord =>
      obtain rfl : _ = next := by simpa [resume] using taken
      simpa using StateReads.expression (.alternative enclosed condition whole)
    | _ => simp [resume] at taken
  | alternative _ condition consequent ih =>
    -- A conditional is whole with its last branch, so the token belongs to what encloses it.
    simpa using ih (condition.conditional consequent whole) taken

theorem conclude_reads {value result : Node} {stack : List Frame} {first second : List Token}
    (enclosed : StackReads stack first) (whole : Derives .expression second [value])
    (stopped : conclude value stack = .ok result) :
    Derives .expression (first ++ second) [result] := by
  induction enclosed generalizing value second with
  | nil =>
    obtain rfl : value = result := by simpa [conclude] using stopped
    exact whole
  | group | argument | condition | consequent => simp [conclude] at stopped
  | alternative _ condition consequent ih =>
    simpa using ih (condition.conditional consequent whole) stopped

theorem continueTerm_reads {value : Node} {stack : List Frame} {first second : List Token}
    {token : Token} {next : State} (enclosed : StackReads stack first)
    (term : Derives .term second [value]) (taken : continueTerm value stack token = some next) :
    StateReads next (first ++ second ++ [token]) := by
  cases token with
  | operator op =>
    obtain rfl : _ = next := by simpa [continueTerm] using taken
    simpa using StateReads.factor enclosed (.some op term)
  | _ =>
    rw [continueTerm_of_ne (by simp [Token.kind])] at taken
    exact resume_reads enclosed term.plain taken

theorem shift_reads {state next : State} {tokens : List Token} {token : Token}
    (reads : StateReads state tokens) (taken : shift state token = some next) :
    StateReads next (tokens ++ [token]) := by
  cases reads with
  | expression enclosed => exact beginExpression_reads enclosed taken
  | factor enclosed waiting => exact beginFactor_reads enclosed waiting taken
  | named name enclosed waiting =>
    have operand := waiting.join (.identifier name)
    cases token with
    | openParen =>
      obtain rfl : _ = next := by simpa [shift] using taken
      simpa using StateReads.arguments name enclosed waiting
    | _ =>
      rw [shift_named_of_ne (by simp)] at taken
      simpa using continueTerm_reads enclosed operand taken
  | arguments callee enclosed waiting =>
    cases token with
    | closeParen =>
      obtain rfl : _ = next := by simpa [shift] using taken
      simpa using StateReads.term enclosed (waiting.join (.emptyCall callee))
    | _ =>
      rw [shift_arguments_of_ne (by simp)] at taken
      have opened := StackReads.argument callee enclosed waiting .nil
      simpa using beginExpression_reads opened taken
  | term enclosed term => exact continueTerm_reads enclosed term taken

theorem stop_reads {state : State} {tokens : List Token} {result : Node}
    (reads : StateReads state tokens) (stopped : stop state = .ok result) :
    Derives .expression tokens [result] := by
  cases reads with
  | expression | factor | arguments => simp [stop] at stopped
  | named name enclosed waiting =>
    simpa using conclude_reads enclosed (waiting.join (.identifier name)).plain stopped
  | term enclosed term => exact conclude_reads enclosed term.plain stopped

theorem initial_reads : StateReads (.expression []) [] := .expression .nil

end Kaleidoscope.Expression
