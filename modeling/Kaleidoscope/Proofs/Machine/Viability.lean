import Kaleidoscope.Proofs.Machine.Judgement

/-! The first problem of a text.

A machine that never takes a token in vain, and that asks only for tokens it would take, reports the
leftmost problem: what stands before it can be continued, what it is about cannot.

Main statements: the tokens that a machine takes are the beginnings of its language, and a judgement
against a text names its first problem.
-/

set_option autoImplicit false

namespace Kaleidoscope

/-- Tokens that some text of the language begins with. -/
def Viable (language : List Token → Prop) (tokens : List Token) : Prop :=
  ∃ rest, language (tokens ++ rest)

def Expectation.Admits : Expectation → Token → Prop
  | .kind wanted, token => token.kind = wanted
  | .factor, token => token.kind ∈ [.number, .identifier, .openParen]

/-- The item at the index is the first one with which the text cannot go on, and every token that was
expected could stand in its place. -/
structure FirstProblem (language : List Token → Prop) (tokens : List Token) (items : List Item)
    (found : Token.Kind) (expected : Expectation) (position : Position) (index : Nat) : Prop where
  named : ∃ lexeme, items[index]? = some (.ok lexeme) ∧ lexeme.kind = found ∧
    lexeme.position = position
  before : Viable language (tokens.take index)
  token : index < tokens.length → ¬ Viable language (tokens.take (index + 1))
  ending : index = tokens.length → ¬ language tokens
  instead : ∀ token, expected.Admits token → Viable language (tokens.take index ++ [token])

-- What is said of a text is about its first problem, be it lexical or not.
structure Diagnosis {Result : Type} (language : List Token → Prop) (lexemes : List Lexeme)
    (last : Item) (result : Except ParseError Result) : Prop where
  unexpected : ∀ found expected position, result = .error (.unexpected found expected position) →
    ∃ index, FirstProblem language (lexemes.map Lexeme.token) (lexemes.map .ok ++ [last])
      found expected position index
  lexical : ∀ error, result = .error (.lexical error) ↔
    last = .error error ∧ Viable language (lexemes.map Lexeme.token)

namespace Machine

variable {State Result : Type}

def Honest (machine : Machine State Result) : Prop :=
  ∀ state lookahead expectation token, machine.stop state lookahead = .error expectation →
    expectation.Admits token → (machine.shift state token).isSome

/-- The machine accepts the texts of a language, and all that it takes belongs to one of them. -/
structure Decides (machine : Machine State Result) (initial : State)
    (language : List Token → Prop) : Prop where
  accepts : ∀ tokens, language tokens ↔ ∃ result, machine.Accepts initial tokens result
  completable : ∀ state, machine.Completable state
  honest : machine.Honest

namespace Decides

variable {machine : Machine State Result} {initial final : State} {language : List Token → Prop}

theorem viable_iff (decides : machine.Decides initial language) {tokens : List Token} :
    Viable language tokens ↔ (machine.shifts initial tokens).isSome := by
  constructor
  · rintro ⟨rest, member⟩
    obtain ⟨result, final, reached, -⟩ := (decides.accepts _).mp member
    exact isSome_shifts_of_append (Option.isSome_of_eq_some reached)
  · intro taken
    obtain ⟨final, reached⟩ := Option.isSome_iff_exists.mp taken
    obtain ⟨rest, result, -, ending, further, stopped⟩ := decides.completable final
    refine ⟨rest, (decides.accepts _).mpr ⟨result, ending, ?_, stopped⟩⟩
    rw [shifts_append, reached]
    exact further

theorem viable_of_reached (decides : machine.Decides initial language) {tokens : List Token}
    (reached : machine.shifts initial tokens = some final) : Viable language tokens :=
  decides.viable_iff.mpr (Option.isSome_of_eq_some reached)

theorem not_language_of_refused (decides : machine.Decides initial language) {tokens : List Token}
    {expectation : Expectation} (reached : machine.shifts initial tokens = some final)
    (refused : machine.stop final .endOfInput = .error expectation) : ¬ language tokens := by
  intro member
  obtain ⟨result, other, same, stopped⟩ := (decides.accepts tokens).mp member
  obtain rfl := Option.some.inj (reached.symm.trans same)
  simp [refused] at stopped

theorem viable_instead (decides : machine.Decides initial language) {tokens : List Token}
    {lookahead : Token.Kind} {expectation : Expectation}
    (reached : machine.shifts initial tokens = some final)
    (refused : machine.stop final lookahead = .error expectation) {token : Token}
    (admitted : expectation.Admits token) : Viable language (tokens ++ [token]) := by
  rw [decides.viable_iff, shifts_concat, reached]
  exact decides.honest _ _ _ _ refused admitted

theorem not_viable_of_stuck (decides : machine.Decides initial language) {tokens : List Token}
    {token : Token} (reached : machine.shifts initial tokens = some final)
    (stuck : machine.shift final token = none) : ¬ Viable language (tokens ++ [token]) := by
  rw [decides.viable_iff, shifts_concat, reached, Option.bind_some, stuck]
  simp

theorem firstProblem_of_stuck (decides : machine.Decides initial language) {before rest : List Lexeme}
    {lexeme : Lexeme} {last : Item} {expectation : Expectation}
    (reached : machine.shifts initial (before.map Lexeme.token) = some final)
    (stuck : machine.shift final lexeme.token = none)
    (refused : machine.stop final lexeme.kind = .error expectation) :
    FirstProblem language ((before ++ lexeme :: rest).map Lexeme.token)
      ((before ++ lexeme :: rest).map .ok ++ [last]) lexeme.kind expectation lexeme.position
      before.length where
  named := ⟨lexeme, by simp, rfl, rfl⟩
  before := by simpa using decides.viable_of_reached reached
  token _ := by
    have taken : ((before ++ lexeme :: rest).map Lexeme.token).take (before.length + 1) =
        before.map Lexeme.token ++ [lexeme.token] := by
      simp [List.take_append, List.take_of_length_le]
    rw [taken]
    exact decides.not_viable_of_stuck reached stuck
  ending whole := by simp at whole
  instead token admitted := by simpa using decides.viable_instead reached refused admitted

theorem firstProblem_of_ending (decides : machine.Decides initial language) {lexemes : List Lexeme}
    {lexeme : Lexeme} {expectation : Expectation} (ended : lexeme.kind = .endOfInput)
    (reached : machine.shifts initial (lexemes.map Lexeme.token) = some final)
    (refused : machine.stop final lexeme.kind = .error expectation) :
    FirstProblem language (lexemes.map Lexeme.token) (lexemes.map .ok ++ [.ok lexeme]) lexeme.kind
      expectation lexeme.position lexemes.length := by
  have whole : (lexemes.map Lexeme.token).take lexemes.length = lexemes.map Lexeme.token :=
    List.take_of_length_le (by simp)
  constructor
  · exact ⟨lexeme, by simp, rfl, rfl⟩
  · rw [whole]
    exact decides.viable_of_reached reached
  · intro within
    simp at within
  · intro _
    exact decides.not_language_of_refused reached (ended ▸ refused)
  · intro token admitted
    rw [whole]
    exact decides.viable_instead reached refused admitted

theorem diagnosis (decides : machine.Decides initial language) {last : Item} (lexemes : List Lexeme)
    (ended : ∀ lexeme, last = .ok lexeme → lexeme.kind = .endOfInput) :
    Diagnosis language lexemes last (machine.judge last initial lexemes) := by
  rcases machine.shifts_cases initial lexemes with
    ⟨before, lexeme, rest, final, rfl, reached, stuck⟩ | ⟨final, reached⟩
  · -- Some lexeme is not taken: nothing behind it matters.
    rw [judge_append reached, judge_cons_of_stuck stuck]
    have unviable : ¬ Viable language ((before ++ lexeme :: rest).map Lexeme.token) := by
      rw [decides.viable_iff, List.map_append, shifts_append, reached]
      simp [shifts, stuck]
    cases stopped : machine.stop final lexeme.kind with
    | ok result =>
      refine ⟨by simp, fun error => iff_of_false ?_ fun both => unviable both.2⟩
      simp
    | error expectation =>
      refine ⟨?_, fun error => iff_of_false ?_ fun both => unviable both.2⟩
      · intro found expected position same
        obtain ⟨rfl, rfl, rfl⟩ := by simpa [Parser.refuse] using same
        exact ⟨before.length, decides.firstProblem_of_stuck reached stuck stopped⟩
      · simp [Parser.refuse]
  · -- Every lexeme is taken: what stands behind them decides.
    have viable := decides.viable_of_reached reached
    rw [judge_of_shifts reached]
    cases last with
    | error error => exact ⟨by simp [judge], by simp [judge, viable]⟩
    | ok lexeme =>
      simp only [judge]
      cases stopped : machine.stop final lexeme.kind with
      | ok result => exact ⟨by simp, by simp⟩
      | error expectation =>
        constructor
        · intro found expected position same
          obtain ⟨rfl, rfl, rfl⟩ := by simpa [Parser.refuse] using same
          exact ⟨lexemes.length, decides.firstProblem_of_ending (ended lexeme rfl) reached stopped⟩
        · simp [Parser.refuse]

end Decides

end Machine

end Kaleidoscope
