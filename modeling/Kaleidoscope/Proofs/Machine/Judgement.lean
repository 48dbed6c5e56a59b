import Kaleidoscope.Parser
import Kaleidoscope.Proofs.Machine.Acceptance

/-! What a machine makes of a text.

A machine reads lexemes until it stops, or until it meets the last item of the text, which is its end
or an error. What it says then is its judgement.

Main statements: lexemes that are taken do not change what is said behind them; a machine that stops
with a result only at the end of a text gives one exactly where it accepts the text; and what is said
against a text is about its end, or it is said whatever follows.
-/

set_option autoImplicit false

namespace Kaleidoscope

/-- Whether the text should have gone on. -/
def ParseError.AtEnd : ParseError → Prop
  | .unexpected found _ _ => found = .endOfInput
  | .lexical _ => False

namespace Machine

variable {State Result : Type}

/-- Read the lexemes of a text whose last item stands behind them. -/
def judge (machine : Machine State Result) (last : Item) (state : State) :
    List Lexeme → Except ParseError Result
  | [] =>
      match last with
      | .ok lexeme => (machine.stop state lexeme.kind).mapError (Parser.refuse lexeme)
      | .error error => .error (.lexical error)
  | lexeme :: rest =>
      match machine.shift state lexeme.token with
      | none => (machine.stop state lexeme.kind).mapError (Parser.refuse lexeme)
      | some next => machine.judge last next rest

@[simp] theorem mapError_ok {α β γ : Type} (refuse : β → γ) (result : α) :
    (Except.ok result).mapError refuse = .ok result := rfl

@[simp] theorem mapError_error {α β γ : Type} (refuse : β → γ) (reason : β) :
    (Except.error reason : Except β α).mapError refuse = .error (refuse reason) := rfl

variable {machine : Machine State Result} {last : Item} {state : State}

theorem judge_append {before : List Lexeme} {next : State}
    (reached : machine.shifts state (before.map Lexeme.token) = some next) (rest : List Lexeme) :
    machine.judge last state (before ++ rest) = machine.judge last next rest := by
  induction before generalizing state with
  | nil =>
    obtain rfl : state = next := by simpa using reached
    rfl
  | cons lexeme before ih =>
    cases taken : machine.shift state lexeme.token with
    | none => simp [shifts, taken] at reached
    | some other =>
      simp only [List.map_cons, shifts, taken, Option.bind_some] at reached
      simp only [List.cons_append, judge, taken]
      exact ih reached

theorem judge_of_shifts {lexemes : List Lexeme} {final : State}
    (reached : machine.shifts state (lexemes.map Lexeme.token) = some final) :
    machine.judge last state lexemes = machine.judge last final [] := by
  rw [← judge_append reached [], List.append_nil]

theorem judge_cons_of_stuck {lexeme : Lexeme} (stuck : machine.shift state lexeme.token = none)
    (rest : List Lexeme) :
    machine.judge last state (lexeme :: rest) =
      (machine.stop state lexeme.kind).mapError (Parser.refuse lexeme) := by
  simp only [judge, stuck]

theorem shifts_cases (machine : Machine State Result) (state : State) (lexemes : List Lexeme) :
    (∃ before lexeme rest final, lexemes = before ++ lexeme :: rest ∧
      machine.shifts state (before.map Lexeme.token) = some final ∧
      machine.shift final lexeme.token = none) ∨
    ∃ final, machine.shifts state (lexemes.map Lexeme.token) = some final := by
  induction lexemes generalizing state with
  | nil => exact .inr ⟨state, rfl⟩
  | cons lexeme rest ih =>
    cases taken : machine.shift state lexeme.token with
    | none => exact .inl ⟨[], lexeme, rest, state, rfl, rfl, taken⟩
    | some next =>
      rcases ih next with ⟨before, other, behind, final, rfl, reached, stuck⟩ | ⟨final, reached⟩
      · refine .inl ⟨lexeme :: before, other, behind, final, rfl, ?_, stuck⟩
        simpa [shifts, taken] using reached
      · exact .inr ⟨final, by simpa [shifts, taken] using reached⟩

theorem judge_eq_ok_iff (atEnd : ∀ state lookahead result,
      machine.stop state lookahead = .ok result → lookahead = .endOfInput)
    {lexemes : List Lexeme} (inner : ∀ lexeme ∈ lexemes, lexeme.kind ≠ .endOfInput)
    (ended : ∀ lexeme, last = .ok lexeme → lexeme.kind = .endOfInput) {result : Result} :
    machine.judge last state lexemes = .ok result ↔
      (∃ lexeme, last = .ok lexeme) ∧ machine.Accepts state (lexemes.map Lexeme.token) result := by
  induction lexemes generalizing state with
  | nil =>
    cases last with
    | error => simp [judge]
    | ok lexeme =>
      cases stopped : machine.stop state lexeme.kind <;>
        simp_all [judge, Accepts]
  | cons lexeme rest ih =>
    cases taken : machine.shift state lexeme.token with
    | some next =>
      simp only [judge, taken]
      rw [ih fun other member => inner other (List.mem_cons_of_mem _ member)]
      simp only [Accepts, List.map_cons, shifts_cons taken]
    | none =>
      rw [judge_cons_of_stuck taken]
      -- Stuck inside the text, the machine has no result to stop with.
      have notEnd := inner lexeme (by simp)
      cases stopped : machine.stop state lexeme.kind with
      | ok other => exact absurd (atEnd _ _ _ stopped) notEnd
      | error => simp [Accepts, shifts, taken]

theorem judge_error_cases {lexemes : List Lexeme} {error : ParseError}
    (inner : ∀ lexeme ∈ lexemes, lexeme.kind ≠ .endOfInput)
    (ended : ∀ lexeme, last = .ok lexeme → lexeme.kind = .endOfInput)
    (failed : machine.judge last state lexemes = .error error) :
    (error.AtEnd ∧ (∃ lexeme, last = .ok lexeme) ∧
      ∃ final, machine.shifts state (lexemes.map Lexeme.token) = some final) ∨
    (¬ error.AtEnd ∧ ((∃ failure, last = .error failure) ∨
      ∀ other further, machine.judge other state (lexemes ++ further) = .error error)) := by
  have blamed {lexeme : Lexeme} {stopped : Except Expectation Result}
      (refused : stopped.mapError (Parser.refuse lexeme) = .error error) :
      error.AtEnd ↔ lexeme.kind = .endOfInput := by
    cases stopped with
    | ok => simp at refused
    | error =>
      obtain rfl := Except.error.inj refused
      exact Iff.rfl
  rcases machine.shifts_cases state lexemes with
    ⟨before, lexeme, rest, final, rfl, reached, stuck⟩ | ⟨final, reached⟩
  · rw [judge_append reached, judge_cons_of_stuck stuck] at failed
    refine .inr ⟨mt (blamed failed).mp (inner lexeme (by simp)), .inr fun other further => ?_⟩
    rw [List.append_assoc, List.cons_append, judge_append reached, judge_cons_of_stuck stuck, failed]
  · rw [judge_of_shifts reached] at failed
    cases last with
    | error failure =>
      obtain rfl := Except.error.inj failed
      exact .inr ⟨id, .inl ⟨failure, rfl⟩⟩
    | ok lexeme =>
      exact .inl ⟨(blamed failed).mpr (ended lexeme rfl), ⟨lexeme, rfl⟩, final, reached⟩

/-- The state behind a token of the given kind, if it is the first one; there is none before. -/
def behind (kind : Token.Kind) (notEnd : kind ≠ .endOfInput) (machine : Machine State Result)
    (state : State) : Machine (Option State) Result where
  shift
    | none, token => if token.kind = kind then some (some state) else none
    | some state, token => (machine.shift state token).map some
  stop
    | none, _ => .error (.kind kind)
    | some state, lookahead => machine.stop state lookahead
  shift_endOfInput := by
    rintro (_ | state)
    · exact if_neg (Ne.symm notEnd)
    · simp [machine.shift_endOfInput]

variable {kind : Token.Kind} {notEnd : kind ≠ .endOfInput}

@[simp] theorem shifts_behind_some (initial : State) (tokens : List Token) :
    (machine.behind kind notEnd initial).shifts (some state) tokens =
      (machine.shifts state tokens).map some := by
  induction tokens generalizing state with
  | nil => rfl
  | cons token rest ih =>
    cases taken : machine.shift state token with
    | none => simp [shifts, behind, taken]
    | some next => simpa [shifts, behind, taken] using ih

theorem shifts_behind_cons (initial : State) (token : Token) (rest : List Token) :
    (machine.behind kind notEnd initial).shifts none (token :: rest) =
      if token.kind = kind then (machine.shifts initial rest).map some else none := by
  by_cases fits : token.kind = kind
  · rw [if_pos fits, ← shifts_behind_some initial rest]
    exact shifts_cons (if_pos fits) rest
  · simp [shifts, behind, fits]

theorem accepts_behind_iff {initial : State} {tokens : List Token} {result : Result} :
    (machine.behind kind notEnd initial).Accepts none tokens result ↔
      ∃ token rest, tokens = token :: rest ∧ token.kind = kind ∧
        machine.Accepts initial rest result := by
  constructor
  · rintro ⟨final, reached, stopped⟩
    cases tokens with
    | nil =>
      obtain rfl : none = final := by simpa using reached
      simp [behind] at stopped
    | cons token rest =>
      rw [shifts_behind_cons] at reached
      split at reached
      · next fits =>
        obtain ⟨other, within, rfl⟩ := Option.map_eq_some_iff.mp reached
        exact ⟨token, rest, rfl, fits, other, within, stopped⟩
      · simp at reached
  · rintro ⟨token, rest, rfl, fits, final, reached, stopped⟩
    refine ⟨some final, ?_, stopped⟩
    rw [shifts_behind_cons, if_pos fits, reached]
    rfl

end Machine

end Kaleidoscope
