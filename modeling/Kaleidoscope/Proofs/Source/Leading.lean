import Kaleidoscope.Proofs.Form.Reads
import Kaleidoscope.Proofs.Source.Reading

/-! The definition at the beginning of a text.

A machine that stops with a result has taken the lexemes in front of the one that it stops at, and
nothing behind that one has been looked at.

Main statement: a definition is read exactly where the text begins with one that the next lexeme does not
continue; there is only one such beginning, and what stands behind that lexeme does not matter.
-/

set_option autoImplicit false

namespace Kaleidoscope

theorem Item.begins_iff {lexemes before : List Lexeme} {last : Item} {next : Lexeme}
    {rest : List Item} :
    lexemes.map .ok ++ [last] = before.map .ok ++ .ok next :: rest ↔
      (∃ behind, lexemes = before ++ next :: behind ∧ rest = behind.map .ok ++ [last]) ∨
        (lexemes = before ∧ last = .ok next ∧ rest = []) := by
  induction before generalizing lexemes with
  | nil =>
    cases lexemes with
    | nil => simp [eq_comm]
    | cons lexeme lexemes => simp [eq_comm]
  | cons first before ih =>
    cases lexemes with
    | nil => simp
    | cons lexeme lexemes => simp [ih, and_assoc, and_or_left]

namespace Machine

variable {State Result : Type} {machine : Machine State Result} {state : State}

/-- The machine takes some lexemes and stops with a result in front of the next one. -/
def Halts (machine : Machine State Result) (state : State) (before : List Lexeme) (next : Lexeme)
    (result : Result) : Prop :=
  ∃ final, machine.shifts state (before.map Lexeme.token) = some final ∧
    machine.shift final next.token = none ∧ machine.stop final next.kind = .ok result

theorem mapError_eq_ok_iff {stopped : Except Expectation Result} {lexeme : Lexeme} {result : Result} :
    stopped.mapError (Parser.refuse lexeme) = .ok result ↔ stopped = .ok result := by
  cases stopped <;> simp

theorem judge_eq_ok_iff_halts {lexemes : List Lexeme} {last : Item} {result : Result}
    (ended : ∀ lexeme, last = .ok lexeme → lexeme.token = .endOfInput) :
    machine.judge last state lexemes = .ok result ↔
      ∃ before next rest, lexemes.map .ok ++ [last] = before.map .ok ++ .ok next :: rest ∧
        machine.Halts state before next result := by
  constructor
  · intro judged
    rcases machine.shifts_cases state lexemes with
      ⟨before, next, behind, final, rfl, reached, stuck⟩ | ⟨final, reached⟩
    · rw [judge_append reached, judge_cons_of_stuck stuck, mapError_eq_ok_iff] at judged
      exact ⟨before, next, _, Item.begins_iff.mpr (.inl ⟨behind, rfl, rfl⟩), final, reached, stuck,
        judged⟩
    · rw [judge_of_shifts reached] at judged
      cases last with
      | error => simp [judge] at judged
      | ok next =>
        have stopped : machine.stop final next.kind = .ok result := mapError_eq_ok_iff.mp judged
        have stuck : machine.shift final next.token = none := by
          rw [ended next rfl]
          exact machine.shift_endOfInput final
        exact ⟨lexemes, next, [], Item.begins_iff.mpr (.inr ⟨rfl, rfl, rfl⟩), final, reached, stuck,
          stopped⟩
  · rintro ⟨before, next, rest, begins, final, reached, stuck, stopped⟩
    rcases Item.begins_iff.mp begins with ⟨behind, rfl, -⟩ | ⟨rfl, rfl, -⟩
    · rw [judge_append reached, judge_cons_of_stuck stuck, mapError_eq_ok_iff]
      exact stopped
    · rw [judge_of_shifts reached]
      exact mapError_eq_ok_iff.mpr stopped

theorem Halts.unique {before other : List Lexeme} {next next' : Lexeme} {rest rest' : List Item}
    {result result' : Result} (left : machine.Halts state before next result)
    (right : machine.Halts state other next' result')
    (same : before.map Except.ok ++ Except.ok next :: rest =
      (other.map Except.ok ++ Except.ok next' :: rest' : List Item)) : other = before := by
  -- A machine is stuck behind the shorter one of two beginnings, so it does not come to the other.
  induction before generalizing state other with
  | nil =>
    cases other with
    | nil => rfl
    | cons lexeme other =>
      obtain ⟨rfl, -⟩ : next = lexeme ∧ _ := by simpa using same
      obtain ⟨final, reached, stuck, -⟩ := left
      obtain rfl : state = final := by simpa using reached
      obtain ⟨final, reached, -⟩ := right
      simp [shifts, stuck] at reached
  | cons lexeme before ih =>
    cases other with
    | nil =>
      obtain ⟨rfl, -⟩ : lexeme = next' ∧ _ := by simpa using same
      obtain ⟨final, reached, stuck, -⟩ := right
      obtain rfl : state = final := by simpa using reached
      obtain ⟨final, reached, -⟩ := left
      simp [shifts, stuck] at reached
    | cons lexeme' other =>
      obtain ⟨rfl, further⟩ : lexeme = lexeme' ∧ _ := by simpa using same
      obtain ⟨final, reached, halts⟩ := left
      obtain ⟨final', reached', halts'⟩ := right
      cases taken : machine.shift state lexeme.token with
      | none => simp [shifts, taken] at reached
      | some middle =>
        rw [List.map_cons, shifts_cons taken] at reached reached'
        rw [ih ⟨final, reached, halts⟩ ⟨final', reached', halts'⟩ further]

end Machine

namespace Grammar

def Defines (tokens : List Token) (tree : Node) : Prop :=
  ∃ prototype rest body, tokens = .define :: prototypeTokens prototype ++ rest ∧
    Derives .expression rest [body] ∧ tree = .definition prototype body

end Grammar

namespace Form

open Grammar (prototypeTokens endsWithName)

variable {notEnd : Token.Kind.define ≠ .endOfInput}

theorem shifts_definition (tokens : List Token) :
    (machine.behind .define notEnd (.head .define .start)).shifts none (.define :: tokens) =
      (machine.shifts .start (.define :: tokens)).map some := by
  have begun : machine.shift .start .define = some (.head .define .start) := rfl
  rw [Machine.shifts_behind_cons, Machine.shifts_cons begun]
  rfl

theorem exists_body {state : State} {tokens : List Token} {tree : Node}
    (reads : StateReads state (.define :: tokens)) (stopped : stop state = .ok tree) :
    ∃ prototype body rest value, state = .body prototype body ∧
      Token.define :: tokens = .define :: prototypeTokens prototype ++ rest ∧
      body.isNamed = endsWithName rest ∧ Expression.StateReads body rest ∧
      Expression.stop body = .ok value ∧ tree = .definition prototype value := by
  generalize same : Token.define :: tokens = whole at reads
  cases reads with
  | start => simp at same
  | head => simp [stop] at stopped
  | declared => simp at same
  | @body body rest prototype reads named =>
    obtain ⟨value, inner, rfl⟩ := exists_of_stop_body stopped
    exact ⟨prototype, body, rest, value, rfl, rfl, named, reads, inner, rfl⟩
  | expression reads =>
    -- No expression begins with the word for definitions.
    subst same
    have kind := Expression.kind_of_derives (Expression.stop_reads reads stopped)
    simp [Token.kind] at kind

theorem halts_definition_iff {before : List Lexeme} {next : Lexeme} {tree : Node} :
    (machine.behind .define notEnd (.head .define .start)).Halts none before next tree ↔
      Grammar.Defines (before.map Lexeme.token) tree ∧ next.kind ≠ .operator ∧
        Grammar.fuses (before.map Lexeme.token) [next.token] = false := by
  unfold Machine.Halts
  constructor
  · rintro ⟨final, reached, stuck, stopped⟩
    cases taken : before.map Lexeme.token with
    | nil =>
      rw [taken] at reached
      obtain rfl : none = final := by simpa using reached
      simp [Machine.behind] at stopped
    | cons token tokens =>
      rw [taken, Machine.shifts_behind_cons] at reached
      split at reached
      · next fits =>
        obtain rfl : token = .define := by cases token <;> simp [Token.kind] at fits ⊢
        obtain ⟨form, within, rfl⟩ := Option.map_eq_some_iff.mp reached
        have initial : StateReads (.head .define .start) [.define] := .head .define .start
        have reads : StateReads form (.define :: tokens) :=
          Machine.shifts_induction shift_reads initial within
        -- Where a definition may stop, its head is whole and its body is an expression.
        obtain ⟨prototype, body, rest, value, rfl, whole, named, reads, inner, rfl⟩ :=
          exists_body reads stopped
        have derivation := Expression.stop_reads reads inner
        have ends : Expression.shift body next.token = none := by
          simpa [Machine.behind, machine, shift] using stuck
        obtain ⟨notOperator, apart⟩ := apart_of_stuck inner named ends
        refine ⟨⟨prototype, rest, value, whole, derivation, rfl⟩, notOperator, ?_⟩
        rw [whole, Grammar.fuses_append_left derivation.ne_nil]
        exact apart
      · simp at reached
  · rintro ⟨⟨prototype, rest, body, same, derivation, rfl⟩, notOperator, apart⟩
    have form := Grammar.Form.definition prototype derivation
    obtain ⟨final, reached, stopped, ends⟩ := exists_shifts form
    rw [same] at apart ⊢
    refine ⟨some final, ?_, ?_, stopped⟩
    · rw [List.cons_append, shifts_definition, ← List.cons_append, reached]
      rfl
    · have stuck := ends next.token notOperator apart
      simp [Machine.behind, machine, stuck]

end Form

/-- The items begin with the lexemes of a definition, and with one more that does not continue it. -/
structure Item.LeadingDefinition (items : List Item) (before : List Lexeme) (next : Lexeme)
    (tree : Node) : Prop where
  begins : ∃ rest, items = before.map .ok ++ .ok next :: rest
  defines : Grammar.Defines (before.map Lexeme.token) tree
  notOperator : next.kind ≠ .operator
  notCalled : Grammar.endsWithName (before.map Lexeme.token) → next.kind ≠ .openParen

theorem Item.leadingDefinition_iff {items : List Item} {before : List Lexeme} {next : Lexeme}
    {tree : Node} :
    LeadingDefinition items before next tree ↔
      (∃ rest, items = before.map .ok ++ .ok next :: rest) ∧
        (Form.machine.behind .define (by simp) (.head .define .start)).Halts none before next tree := by
  have apart : (Grammar.endsWithName (before.map Lexeme.token) → next.kind ≠ .openParen) ↔
      Grammar.fuses (before.map Lexeme.token) [next.token] = false := by
    simp [Grammar.fuses, Lexeme.kind]
  rw [Form.halts_definition_iff, ← apart]
  constructor
  · rintro ⟨begins, defines, notOperator, notCalled⟩
    exact ⟨begins, defines, notOperator, notCalled⟩
  · rintro ⟨begins, defines, notOperator, notCalled⟩
    exact ⟨begins, defines, notOperator, notCalled⟩

namespace Source

theorem definition_eq_ok_iff_leading {policy : Policy} {source : String} {tree : Node} :
    definition policy source = .ok tree ↔
      ∃ before next, Item.LeadingDefinition (items policy source) before next tree := by
  have ended (lexeme : Lexeme) (found : last policy source = .ok lexeme) :
      lexeme.token = .endOfInput :=
    Lexeme.kind_eq_endOfInput_iff.mp (kind_of_last lexeme found)
  rw [definition_eq, Machine.judge_eq_ok_iff_halts ended, ← items_eq]
  constructor
  · rintro ⟨before, next, rest, begins, halts⟩
    exact ⟨before, next, Item.leadingDefinition_iff.mpr ⟨⟨rest, begins⟩, halts⟩⟩
  · rintro ⟨before, next, leading⟩
    obtain ⟨⟨rest, begins⟩, halts⟩ := Item.leadingDefinition_iff.mp leading
    exact ⟨before, next, rest, begins, halts⟩

theorem definition_eq_ok_iff (policy : Policy) (source : String) (tree : Node) :
    (definition policy source = .ok tree ↔
      ∃ before next, Item.LeadingDefinition (items policy source) before next tree) ∧
    (∀ before next other next' tree',
      Item.LeadingDefinition (items policy source) before next tree →
      Item.LeadingDefinition (items policy source) other next' tree' → other = before) ∧
    ∀ before next, Item.LeadingDefinition (items policy source) before next tree →
      ∀ policy' source' rest, items policy' source' = before.map .ok ++ .ok next :: rest →
        definition policy' source' = .ok tree := by
  refine ⟨definition_eq_ok_iff_leading, ?_, ?_⟩
  · intro before next other next' tree' leading leading'
    obtain ⟨⟨rest, begins⟩, halts⟩ := Item.leadingDefinition_iff.mp leading
    obtain ⟨⟨rest', begins'⟩, halts'⟩ := Item.leadingDefinition_iff.mp leading'
    exact halts.unique halts' (begins.symm.trans begins')
  · intro before next leading policy' source' rest begins
    exact definition_eq_ok_iff_leading.mpr
      ⟨before, next, ⟨rest, begins⟩, leading.defines, leading.notOperator, leading.notCalled⟩

end Source

end Kaleidoscope
