import Kaleidoscope.Proofs.Source.Reading

/-! Actions one after the other.

Main statements: a machine asks for each token that it takes and goes on behind it; and a machine that does
what another one does until that one stops is as good as the other one with something behind it.
-/

set_option autoImplicit false

namespace Kaleidoscope.Parser

variable {α β γ : Type}

namespace Action

/-- Read with the first action, and where it succeeds with the next one. -/
def andThen (first : Action α) (next : α → Action β) : Action β := fun parser =>
  match first parser with
  | (.ok value, parser) => next value parser
  | (.error error, parser) => (.error error, parser)

def done (value : α) : Action α := fun parser => (.ok value, parser)

def refused (expectation : Expectation) : Action α := fun parser =>
  (.error (refuse parser.current expectation), parser)

/-- Let the lookahead decide. -/
def peek (choose : Lexeme → Action α) : Action α := fun parser => choose parser.current parser

theorem andThen_of_ok {first : Action α} {parser final : Parser} {value : α}
    (read : first parser = (.ok value, final)) (next : α → Action β) :
    first.andThen next parser = next value final := by
  simp only [andThen, read]

theorem andThen_of_error {first : Action α} {parser final : Parser} {error : ParseError}
    (failed : first parser = (.error error, final)) (next : α → Action β) :
    first.andThen next parser = (.error error, final) := by
  simp only [andThen, failed]

@[simp] theorem andThen_done (first : Action α) : first.andThen done = first := by
  funext parser
  unfold andThen
  cases first parser with
  | mk outcome final => cases outcome <;> rfl

theorem andThen_congr_left {first other : Action α} {parser : Parser}
    (same : first parser = other parser) (next : α → Action β) :
    first.andThen next parser = other.andThen next parser := by
  simp only [andThen, same]

theorem andThen_congr {first : Action α} {next other : α → Action β} {parser : Parser}
    (same : ∀ value final, first parser = (.ok value, final) → next value final = other value final) :
    first.andThen next parser = first.andThen other parser := by
  unfold andThen
  cases read : first parser with
  | mk outcome final =>
    cases outcome with
    | error => rfl
    | ok value => exact same value final read

theorem andThen_eq_ok {first : Action α} {next : α → Action β} {parser final : Parser} {result : β}
    (read : first.andThen next parser = (.ok result, final)) :
    ∃ value middle, first parser = (.ok value, middle) ∧ next value middle = (.ok result, final) := by
  unfold andThen at read
  cases begun : first parser with
  | mk outcome middle =>
    rw [begun] at read
    cases outcome with
    | error => simp at read
    | ok value => exact ⟨value, middle, rfl, read⟩

theorem andThen_ext {first : Action α} {next other : α → Action β}
    (same : ∀ parser value final, first parser = (.ok value, final) →
      next value final = other value final) : first.andThen next = first.andThen other :=
  funext fun parser => andThen_congr (same parser)

theorem andThen_assoc (first : Action α) (next : α → Action β) (last : β → Action γ) :
    (first.andThen next).andThen last = first.andThen fun value => (next value).andThen last := by
  funext parser
  unfold andThen
  cases first parser with
  | mk outcome final => cases outcome <;> rfl

end Action

open Parser.Action (andThen done refused)

variable {State Result Inner Value : Type} {machine : Machine State Result} {state next : State}
  {parser : Parser}

theorem run_of_stuck (stuck : machine.shift state parser.current.token = none) :
    run machine state parser = conclude machine state parser :=
  runFrom_of_stuck stuck parser.ahead.items

theorem conclude_of_ok {result : Result}
    (stopped : machine.stop state parser.current.kind = .ok result) :
    conclude machine state parser = (.ok result, parser) := by
  rw [conclude, stopped]
  rfl

theorem conclude_of_error {expectation : Expectation}
    (stopped : machine.stop state parser.current.kind = .error expectation) :
    conclude machine state parser = (.error (refuse parser.current expectation), parser) := by
  rw [conclude, stopped]
  rfl

theorem run_of_taken (taken : machine.shift state parser.current.token = some next) :
    run machine state parser =
      (expect parser.current.kind).andThen (fun _ => run machine next) parser := by
  obtain ⟨current, items, ending⟩ := parser
  simp only [andThen, expect, if_true]
  cases items with
  | nil =>
    -- The end of the text is not taken, so the machine stops in front of it.
    exact (runFrom_nil taken).trans (run_of_stuck (machine.shift_endOfInput next)).symm
  | cons item rest =>
    cases item with
    | error error => exact runFrom_error taken error rest
    | ok lexeme => exact runFrom_ok taken lexeme rest

theorem run_congr {other : State}
    (shift : machine.shift state parser.current.token = machine.shift other parser.current.token)
    (stop : machine.stop state parser.current.kind = machine.stop other parser.current.kind) :
    run machine state parser = run machine other parser := by
  cases taken : machine.shift other parser.current.token with
  | none => rw [run_of_stuck (shift.trans taken), run_of_stuck taken, conclude, conclude, stop]
  | some next => rw [run_of_taken (shift.trans taken), run_of_taken taken]

theorem expect_eq_ok {kind : Token.Kind} {lexeme : Lexeme} {final : Parser}
    (read : expect kind parser = (.ok lexeme, final)) :
    parser.current = lexeme ∧ parser.current.kind = kind ∧
      parser.ahead.next = (.ok final.current, final.ahead) := by
  unfold expect at read
  split at read
  · next fits =>
    split at read
    · next next =>
      obtain ⟨rfl, rfl⟩ := by simpa using read
      exact ⟨rfl, fits, next⟩
    · simp at read
  · simp at read

theorem run_eq_done {result : Result} (stuck : machine.shift state parser.current.token = none)
    (stopped : machine.stop state parser.current.kind = .ok result) :
    run machine state parser = done result parser :=
  (run_of_stuck stuck).trans (conclude_of_ok stopped)

theorem run_eq_refused {expectation : Expectation}
    (stuck : machine.shift state parser.current.token = none)
    (stopped : machine.stop state parser.current.kind = .error expectation) :
    run machine state parser = refused expectation parser :=
  (run_of_stuck stuck).trans (conclude_of_error stopped)

theorem run_of_fits {kind : Token.Kind} {next : Lexeme → State} (fits : parser.current.kind = kind)
    (taken : machine.shift state parser.current.token = some (next parser.current)) :
    run machine state parser =
      (expect kind).andThen (fun lexeme => run machine (next lexeme)) parser := by
  rw [run_of_taken taken, fits]
  refine Action.andThen_congr fun lexeme final read => ?_
  rw [(expect_eq_ok read).1]

theorem run_eq_expect {kind : Token.Kind} {next : Lexeme → State}
    (waits : machine.shift state parser.current.token =
      if parser.current.kind = kind then some (next parser.current) else none)
    (stopped : machine.stop state parser.current.kind = .error (.kind kind)) :
    run machine state parser =
      (expect kind).andThen (fun lexeme => run machine (next lexeme)) parser := by
  by_cases fits : parser.current.kind = kind
  · exact run_of_fits fits (waits.trans (if_pos fits))
  · rw [run_eq_refused (waits.trans (if_neg fits)) stopped]
    simp only [refused, andThen, expect, if_neg fits]

theorem run_eq_peek {kind : Token.Kind} {next : Lexeme → State} {result : Result}
    (chooses : machine.shift state parser.current.token =
      if parser.current.kind = kind then some (next parser.current) else none)
    (stopped : machine.stop state parser.current.kind = .ok result) :
    run machine state parser = (if parser.current.kind = kind then
      (expect kind).andThen fun lexeme => run machine (next lexeme) else done result) parser := by
  split
  · next fits => exact run_of_fits fits (chooses.trans (if_pos fits))
  · next other => exact run_eq_done (chooses.trans (if_neg other)) stopped

theorem runAfter_eq (kind : Token.Kind) (machine : Machine State Result) (state : State) :
    runAfter kind machine state = (expect kind).andThen fun _ => run machine state := by
  funext parser
  unfold runAfter andThen
  cases expect kind parser with
  | mk outcome final => cases outcome <;> rfl

/-- Where the inner machine fails, the outer one has to fail likewise. -/
theorem run_of_failed {inner : Machine Inner Value} {within : Inner} {rest : Value → Action Result}
    {expectation : Expectation}
    (stopped : inner.stop within parser.current.kind = .error expectation)
    (stuck : machine.shift state parser.current.token = none)
    (likewise : machine.stop state parser.current.kind = .error expectation) :
    run machine state parser = andThen (conclude inner within) rest parser := by
  rw [Action.andThen_of_error (conclude_of_error stopped)]
  exact run_eq_refused stuck likewise

/-- The inner machine is followed token by token, and where it stops the outer one does the rest. -/
theorem run_follows {inner : Machine Inner Value} (Follows : Inner → State → Prop)
    {rest : Value → Action Result}
    (shifts : ∀ {state next other token}, Follows state other →
      inner.shift state token = some next →
      ∃ further, machine.shift other token = some further ∧ Follows next further)
    (stops : ∀ {state other parser}, Follows state other →
      inner.shift state parser.current.token = none →
      run machine other parser = andThen (conclude inner state) rest parser)
    {state : Inner} {other : State} (follows : Follows state other) (parser : Parser) :
    run machine other parser = (run inner state).andThen rest parser := by
  have stopped {state : Inner} {other : State} {parser : Parser} (follows : Follows state other)
      (stuck : inner.shift state parser.current.token = none) :
      run machine other parser = (run inner state).andThen rest parser := by
    rw [stops follows stuck, Action.andThen_congr_left (run_of_stuck stuck)]
  have moved {state next : Inner} {other : State} {parser : Parser} (follows : Follows state other)
      (taken : inner.shift state parser.current.token = some next)
      (behind : ∀ further final, Follows next further →
        parser.ahead.next = (.ok final.current, final.ahead) →
        run machine further final = (run inner next).andThen rest final) :
      run machine other parser = (run inner state).andThen rest parser := by
    obtain ⟨further, taken', follows⟩ := shifts follows taken
    rw [run_of_taken taken', Action.andThen_congr_left (run_of_taken taken), Action.andThen_assoc]
    exact Action.andThen_congr fun _ final read =>
      behind further final follows (expect_eq_ok read).2.2
  obtain ⟨current, items, ending⟩ := parser
  -- One item is taken off what is ahead with every token.
  induction items generalizing state other current with
  | nil =>
    cases taken : inner.shift state current.token with
    | none => exact stopped follows taken
    | some next =>
      refine moved follows taken fun further final follows ahead => stopped follows ?_
      obtain ⟨ended, -⟩ := by simpa [Scan.next] using ahead
      rw [← ended]
      exact inner.shift_endOfInput next
  | cons item items ih =>
    cases taken : inner.shift state current.token with
    | none => exact stopped follows taken
    | some next =>
      refine moved follows taken fun further final follows ahead => ?_
      obtain ⟨lookahead, scan⟩ := final
      obtain ⟨-, rfl⟩ := by simpa [Scan.next] using ahead
      exact ih follows lookahead

theorem run_embed {inner : Machine Inner Value} (embed : Inner → State) (wrap : Value → Result)
    (shifts : ∀ state token, machine.shift (embed state) token =
      (inner.shift state token).map embed)
    (stops : ∀ state lookahead, machine.stop (embed state) lookahead =
      (inner.stop state lookahead).map wrap) (state : Inner) :
    run machine (embed state) = (run inner state).andThen fun value => done (wrap value) := by
  funext parser
  refine run_follows (fun inner other => other = embed inner) ?_ ?_ rfl parser
  · rintro state next _ token rfl taken
    exact ⟨embed next, by rw [shifts, taken]; rfl, rfl⟩
  · rintro state _ parser rfl stuck
    have stuck' : machine.shift (embed state) parser.current.token = none := by
      rw [shifts, stuck]
      rfl
    cases stopped : inner.stop state parser.current.kind with
    | error expectation => exact run_of_failed stopped stuck' (by rw [stops, stopped]; rfl)
    | ok value =>
      rw [Action.andThen_of_ok (conclude_of_ok stopped)]
      exact run_eq_done stuck' (by rw [stops, stopped]; rfl)

end Kaleidoscope.Parser
