import Kaleidoscope.Machine.Form
import Kaleidoscope.Proofs.Expression.Settled
import Kaleidoscope.Proofs.Form.Heads

/-! Forms while they are read.

Main statements: where the reading of a form may stop, its tokens are those of the form; the tokens of
a form are taken, and what begins another form is not taken any more, unless both fuse.
-/

set_option autoImplicit false

namespace Kaleidoscope.Form

open Grammar (parameterTokens prototypeTokens endsWithName)
open Machine (fillers literal)

def Role.token : Role → Token
  | .define => .define
  | .declare => .declare

-- Whether reading stands behind a name that may be called shows in the last token.
inductive StateReads : State → List Token → Prop where
  | start : StateReads .start []
  | head {prototype : Prototype.State} {tokens : List Token} (role : Role) :
      Prototype.StateReads prototype tokens → StateReads (.head role prototype) (role.token :: tokens)
  | body {state : Expression.State} {tokens : List Token} (prototype : Prototype) :
      Expression.StateReads state tokens → state.isNamed = endsWithName tokens →
      StateReads (.body prototype state) (.define :: prototypeTokens prototype ++ tokens)
  | declared (prototype : Prototype) :
      StateReads (.declared prototype) (.declare :: prototypeTokens prototype)
  | expression {state : Expression.State} {tokens : List Token} :
      Expression.StateReads state tokens → state.isNamed = endsWithName tokens → tokens ≠ [] →
      StateReads (.expression state) tokens

theorem shift_start_of_ne {token : Token} (notDefine : token ≠ .define)
    (notDeclare : token ≠ .declare) :
    shift .start token = (Expression.shift (.expression []) token).map .expression := by
  unfold shift
  split <;> simp_all

theorem shift_ne_start {state next : State} {token : Token} (taken : shift state token = some next) :
    next ≠ .start := by
  rintro rfl
  cases state with
  | start =>
    cases token with
    | define | declare => cases taken
    | _ => simp [shift] at taken
  | head role prototype =>
    obtain ⟨progress, -, begun⟩ := Option.map_eq_some_iff.mp taken
    cases role <;> cases progress <;> cases begun
  | body | declared | expression => simp [shift] at taken

theorem shift_reads {state next : State} {tokens : List Token} {token : Token}
    (reads : StateReads state tokens) (taken : shift state token = some next) :
    StateReads next (tokens ++ [token]) := by
  cases reads with
  | start =>
    by_cases define : token = .define
    · subst define
      obtain rfl : _ = next := by simpa [shift] using taken
      exact .head .define .start
    · by_cases declare : token = .declare
      · subst declare
        obtain rfl : _ = next := by simpa [shift] using taken
        exact .head .declare .start
      · rw [shift_start_of_ne define declare] at taken
        obtain ⟨state, moved, rfl⟩ := Option.map_eq_some_iff.mp taken
        refine .expression (Expression.shift_reads Expression.initial_reads moved) ?_ (by simp)
        rw [Grammar.endsWithName_concat]
        exact Expression.isNamed_of_shift moved
  | @head prototype tokens role reads =>
    obtain ⟨progress, moved, rfl⟩ := Option.map_eq_some_iff.mp taken
    have further := Prototype.shift_reads reads moved
    cases progress with
    | pending state => exact .head role further
    | complete prototype =>
      -- Its tokens are known from the prototype alone, however it has been read.
      rw [List.cons_append, show tokens ++ [token] = prototypeTokens prototype from further]
      cases role with
      | define =>
        have begun := StateReads.body prototype Expression.initial_reads rfl
        rwa [List.append_nil] at begun
      | declare => exact .declared prototype
  | body prototype reads named =>
    obtain ⟨state, moved, rfl⟩ := Option.map_eq_some_iff.mp taken
    rw [List.append_assoc]
    refine .body prototype (Expression.shift_reads reads moved) ?_
    rw [Grammar.endsWithName_concat]
    exact Expression.isNamed_of_shift moved
  | declared => simp [shift] at taken
  | expression reads named =>
    obtain ⟨state, moved, rfl⟩ := Option.map_eq_some_iff.mp taken
    refine .expression (Expression.shift_reads reads moved) ?_ (by simp)
    rw [Grammar.endsWithName_concat]
    exact Expression.isNamed_of_shift moved

theorem exists_of_stop_body {prototype : Prototype} {state : Expression.State}
    {tree : Node} (stopped : stop (.body prototype state) = .ok tree) :
    ∃ value, Expression.stop state = .ok value ∧ tree = .definition prototype value := by
  cases inner : Expression.stop state with
  | error => simp [stop, inner, Except.map] at stopped
  | ok value => exact ⟨value, rfl, by simpa [stop, inner, Except.map, eq_comm] using stopped⟩

theorem stop_reads {state : State} {tokens : List Token} {tree : Node}
    (reads : StateReads state tokens) (stopped : stop state = .ok tree) :
    Grammar.Form tokens tree := by
  cases reads with
  | start | head => simp [stop] at stopped
  | body prototype reads =>
    obtain ⟨value, inner, rfl⟩ := exists_of_stop_body stopped
    exact .definition prototype (Expression.stop_reads reads inner)
  | declared prototype =>
    obtain rfl := Except.ok.inj stopped
    exact .declaration prototype
  | expression reads => exact .expression (Expression.stop_reads reads stopped)

/-- A form that takes no parenthesis does not fuse with one that begins with it. -/
theorem endsWithName_of_stop {state : State} {tokens : List Token} {tree : Node}
    (reads : StateReads state tokens) (stopped : stop state = .ok tree)
    (stuck : shift state .openParen = none) : endsWithName tokens = false := by
  have unnamed {state : Expression.State} (stuck : Expression.shift state .openParen = none) :
      state.isNamed = false := by
    cases state with
    | named => simp [Expression.shift] at stuck
    | expression | factor | arguments | term => rfl
  cases reads with
  | start | head => simp [stop] at stopped
  | body prototype reads named =>
    obtain ⟨value, inner, rfl⟩ := exists_of_stop_body stopped
    rw [Grammar.endsWithName_append (Expression.stop_reads reads inner).ne_nil, ← named]
    exact unnamed (by simpa [shift] using stuck)
  | declared prototype =>
    rw [prototypeTokens, ← List.cons_append, Grammar.endsWithName_concat]
    rfl
  | expression reads named =>
    rw [← named]
    exact unnamed (by simpa [shift] using stuck)

theorem shifts_body {state final : Expression.State} {tokens : List Token}
    (reached : Expression.machine.shifts state tokens = some final) (prototype : Prototype) :
    machine.shifts (.body prototype state) tokens = some (.body prototype final) :=
  Machine.shifts_embed (State.body prototype)
    (fun taken => Option.map_eq_some_iff.mpr ⟨_, taken, rfl⟩) reached

theorem shifts_expression {state final : Expression.State} {tokens : List Token}
    (reached : Expression.machine.shifts state tokens = some final) :
    machine.shifts (.expression state) tokens = some (.expression final) :=
  Machine.shifts_embed State.expression
    (fun taken => Option.map_eq_some_iff.mpr ⟨_, taken, rfl⟩) reached

theorem shift_head_within {parameters next : Parameters.State} {token : Token} (role : Role)
    (name : String) (taken : Parameters.shift parameters token = some next) :
    shift (.head role (.within name parameters)) token =
      some (.head role (.within name next)) := by
  have inside : token ≠ .closeParen := by
    rintro rfl
    cases parameters <;> simp [Parameters.shift] at taken
  simp [shift, Prototype.shift_within_of_ne inside, taken, behindHead]

theorem shifts_prototype (role : Role) (prototype : Prototype) :
    machine.shifts (.head role .start) (prototypeTokens prototype) =
      some (behindHead role (.complete prototype)) := by
  obtain ⟨name, names⟩ := prototype
  obtain ⟨final, reached, stopped⟩ := Parameters.exists_shifts names
  have within : machine.shifts (.head role (.within name .first)) (parameterTokens names) =
      some (.head role (.within name final)) :=
    Machine.shifts_embed (fun parameters => State.head role (.within name parameters))
      (shift_head_within role name) reached
  have named : machine.shift (.head role .start) (.identifier name) =
      some (.head role (.named name)) := rfl
  have opened : machine.shift (.head role (.named name)) .openParen =
      some (.head role (.within name .first)) := rfl
  have closed : machine.shift (.head role (.within name final)) .closeParen =
      some (behindHead role (.complete ⟨name, names⟩)) := by
    simp [machine, shift, Prototype.shift, stopped]
  rw [prototypeTokens, List.cons_append, Machine.shifts_cons named, List.cons_append,
    Machine.shifts_cons opened, Machine.shifts_concat, within]
  exact closed

theorem shift_start_of_expression {token : Token} {next : Expression.State}
    (taken : Expression.shift (.expression []) token = some next) :
    shift .start token = some (.expression next) := by
  have kind := Expression.kind_of_shift_expression taken
  have notDefine : token ≠ .define := by
    rintro rfl
    simp [Token.kind] at kind
  have notDeclare : token ≠ .declare := by
    rintro rfl
    simp [Token.kind] at kind
  rw [shift_start_of_ne notDefine notDeclare, taken]
  rfl

theorem stuck_of_settled {tokens : List Token} {value : Node} {state : Expression.State}
    {token : Token} (settled : Expression.Settled value [] state)
    (named : state.isNamed = endsWithName tokens) (notOperator : token.kind ≠ .operator)
    (apart : Grammar.fuses tokens [token] = false) : Expression.shift state token = none := by
  refine settled.shift_eq notOperator fun opened => ?_
  rw [named]
  simpa [Grammar.fuses, opened, Token.kind] using apart

theorem stuck_of_stop {state : State} {tokens : List Token} {tree : Node} {token : Token}
    (reads : StateReads state tokens) (stopped : stop state = .ok tree)
    (notOperator : token.kind ≠ .operator) (apart : Grammar.fuses tokens [token] = false) :
    shift state token = none := by
  cases reads with
  | start | head => simp [stop] at stopped
  | body prototype reads named =>
    obtain ⟨value, inner, rfl⟩ := exists_of_stop_body stopped
    rw [Grammar.fuses_append_left (Expression.stop_reads reads inner).ne_nil] at apart
    have settled := Expression.settled_of_stop inner
    simp [shift, stuck_of_settled settled named notOperator apart]
  | declared => rfl
  | expression reads named =>
    have settled := Expression.settled_of_stop (show Expression.stop _ = .ok tree from stopped)
    simp [shift, stuck_of_settled settled named notOperator apart]

theorem apart_of_stuck {state : Expression.State} {tokens : List Token} {value : Node}
    {token : Token} (stopped : Expression.stop state = .ok value)
    (named : state.isNamed = endsWithName tokens) (stuck : Expression.shift state token = none) :
    token.kind ≠ .operator ∧ Grammar.fuses tokens [token] = false := by
  obtain ⟨notOperator, notCalled⟩ := (Expression.shift_eq_none_iff stopped).mp stuck
  refine ⟨notOperator, ?_⟩
  by_cases opened : token = .openParen
  · simp [Grammar.fuses, ← named, notCalled opened]
  · have other : token.kind ≠ .openParen := by
      cases token <;> simp [Token.kind] at opened ⊢
    simp [Grammar.fuses, other]

theorem exists_shifts {tokens : List Token} {tree : Node} (form : Grammar.Form tokens tree) :
    ∃ final, machine.shifts .start tokens = some final ∧ stop final = .ok tree ∧
      ∀ token : Token, token.kind ≠ .operator → Grammar.fuses tokens [token] = false →
        shift final token = none := by
  cases form with
  | @definition tokens body prototype derivation =>
    obtain ⟨final, reached, settled⟩ := Expression.exists_settled derivation []
    have named := Expression.isNamed_of_shifts reached rfl
    have head : machine.shift .start .define = some (.head .define .start) := rfl
    have taken := shifts_prototype .define prototype
    refine ⟨.body prototype final, ?_, ?_, ?_⟩
    · rw [List.cons_append, Machine.shifts_cons head, Machine.shifts_append, taken]
      exact shifts_body reached prototype
    · simp [stop, settled.stop_eq, Expression.conclude, Except.map]
    · intro token notOperator apart
      rw [Grammar.fuses_append_left derivation.ne_nil] at apart
      simp [shift, stuck_of_settled settled named notOperator apart]
  | declaration prototype =>
    have head : machine.shift .start .declare = some (.head .declare .start) := rfl
    refine ⟨.declared prototype, ?_, rfl, fun _ _ _ => rfl⟩
    rw [Machine.shifts_cons head]
    exact shifts_prototype .declare prototype
  | expression derivation =>
    obtain ⟨final, reached, settled⟩ := Expression.exists_settled derivation []
    have named := Expression.isNamed_of_shifts reached rfl
    refine ⟨.expression final, ?_, ?_, ?_⟩
    · obtain ⟨token, rest, rfl⟩ := List.exists_cons_of_ne_nil derivation.ne_nil
      simp only [Machine.shifts, Option.bind_eq_some_iff] at reached ⊢
      obtain ⟨next, taken, reached⟩ := reached
      exact ⟨.expression next, shift_start_of_expression taken, shifts_expression reached⟩
    · simp [stop, settled.stop_eq, Expression.conclude]
    · intro token notOperator apart
      simp [shift, stuck_of_settled settled named notOperator apart]

theorem completable_body (prototype : Prototype) (state : Expression.State) :
    machine.Completable (.body prototype state) := by
  refine (Expression.completable state).embed (State.body prototype)
    (fun taken => Option.map_eq_some_iff.mpr ⟨_, taken, rfl⟩) ?_
  intro state result stopped
  exact ⟨.definition prototype result, by simp_all [machine, stop, Expression.machine, Except.map]⟩

theorem completable_behindHead (role : Role) (prototype : Prototype) :
    machine.Completable (behindHead role (.complete prototype)) := by
  cases role with
  | define => exact completable_body prototype _
  | declare => exact ⟨[], .declaration prototype, by simp, .declared prototype, rfl, rfl⟩

theorem completable (state : State) : machine.Completable state := by
  have closing (role : Role) (name : String) (parameters : Parameters.State) {names : List String}
      (stopped : Parameters.stop parameters = .ok names) :
      machine.Completable (.head role (.within name parameters)) :=
    (completable_behindHead role ⟨name, names⟩).of_shift .closeParen (by simp [fillers])
      (by simp [machine, shift, Prototype.shift, stopped])
  have named (role : Role) (name : String) : machine.Completable (.head role (.named name)) :=
    (closing role name .first rfl).of_shift .openParen (by simp [fillers]) rfl
  have expression (state : Expression.State) : machine.Completable (.expression state) := by
    refine (Expression.completable state).embed State.expression
      (fun taken => Option.map_eq_some_iff.mpr ⟨_, taken, rfl⟩) ?_
    intro state result stopped
    exact ⟨result, stopped⟩
  cases state with
  | start =>
    exact (expression (.term (.number literal) [])).of_shift (.number literal) (by simp [fillers]) rfl
  | head role prototype =>
    cases prototype with
    | start => exact (named role "x").of_shift (.identifier "x") (by simp [fillers]) rfl
    | named name => exact named role name
    | within name parameters =>
      cases parameters with
      | first | named => exact closing role name _ rfl
      | separated names =>
        have further : machine.Completable (.head role (.within name (.named ("x" :: names)))) :=
          closing role name _ rfl
        exact further.of_shift (.identifier "x") (by simp [fillers]) rfl
  | body prototype state => exact completable_body prototype state
  | declared prototype => exact completable_behindHead .declare prototype
  | expression state => exact expression state

end Kaleidoscope.Form
