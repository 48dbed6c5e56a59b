import Kaleidoscope.Proofs.Lexeme.Results

/-! What becomes of the results of a lexer.

Whatever a parser is asked to read, it takes the results of its lexer one after the other: a lexeme
becomes the lookahead, an error becomes the outcome of the action that met it.

Main statement: reading with a machine and asking for a token take the results as they come.
-/

set_option autoImplicit false

namespace Kaleidoscope

namespace Parser

/-- A parser stands behind so many results: what it looks at is the last lexeme among them, and what
it has not read are the results that follow. -/
structure StandsBehind (lexer : Lexer) (count : Nat) (parser : Parser) : Prop where
  ahead : parser.ahead = (lexer.after count).scan
  current : ∃ index, index < count ∧ lexer.result index = .ok parser.current ∧
    ∀ later, index < later → later < count → ∃ error, lexer.result later = .error error

/-- Between two places only lexemes have been taken, but for the error that is the outcome. -/
structure Accounts {Result : Type} (lexer : Lexer) (first last : Nat)
    (outcome : Except ParseError Result) : Prop where
  forward : first ≤ last
  lexical : ∀ error, outcome = .error (.lexical error) ↔
    first < last ∧ lexer.result (last - 1) = .error error
  before : ∀ index, first ≤ index → index + 1 < last → ∃ lexeme, lexer.result index = .ok lexeme
  otherwise : (∀ error, outcome ≠ .error (.lexical error)) →
    ∀ index, first ≤ index → index < last → ∃ lexeme, lexer.result index = .ok lexeme

variable {lexer : Lexer} {count first last : Nat}

theorem standsBehind_of_ofScan {parser : Parser} (begun : ofScan lexer.scan = .ok parser) :
    StandsBehind lexer 1 parser := by
  have next := lexer.next_scan_after 0
  unfold ofScan at begun
  rw [show lexer.scan = (lexer.after 0).scan from rfl, next] at begun
  cases yielded : lexer.result 0 with
  | error error => simp [yielded, Except.map] at begun
  | ok lexeme =>
    obtain rfl : _ = parser := by simpa [yielded, Except.map] using begun
    refine ⟨rfl, 0, Nat.zero_lt_one, yielded, ?_⟩
    omega

theorem StandsBehind.take_ok {current lexeme : Lexeme} {scan ahead : Scan}
    (stands : StandsBehind lexer count ⟨current, scan⟩) (next : scan.next = (.ok lexeme, ahead)) :
    StandsBehind lexer (count + 1) ⟨lexeme, ahead⟩ ∧ lexer.result count = .ok lexeme := by
  rw [show scan = _ from stands.ahead, lexer.next_scan_after, Prod.mk.injEq] at next
  obtain ⟨yielded, rfl⟩ := next
  refine ⟨⟨rfl, count, Nat.lt_succ_self count, yielded, ?_⟩, yielded⟩
  omega

theorem StandsBehind.take_error {current : Lexeme} {scan ahead : Scan} {error : LexicalError}
    (stands : StandsBehind lexer count ⟨current, scan⟩) (next : scan.next = (.error error, ahead)) :
    StandsBehind lexer (count + 1) ⟨current, ahead⟩ ∧ lexer.result count = .error error := by
  rw [show scan = _ from stands.ahead, lexer.next_scan_after, Prod.mk.injEq] at next
  obtain ⟨yielded, rfl⟩ := next
  obtain ⟨index, within, looked, errors⟩ := stands.current
  refine ⟨⟨rfl, index, Nat.lt_succ_of_lt within, looked, ?_⟩, yielded⟩
  intro later behind inside
  rcases Nat.lt_succ_iff_lt_or_eq.mp inside with inside | rfl
  · exact errors later behind inside
  · exact ⟨error, yielded⟩

section
variable {Result : Type} {outcome : Except ParseError Result}

theorem Accounts.stay (lexer : Lexer) (count : Nat)
    (syntactic : ∀ error, outcome ≠ .error (.lexical error)) :
    Accounts lexer count count outcome where
  forward := Nat.le_refl count
  lexical error := by simp [syntactic error]
  before index behind inside := by omega
  otherwise _ index behind inside := by omega

theorem Accounts.fail {error : LexicalError} (yielded : lexer.result count = .error error) :
    Accounts lexer count (count + 1) (.error (.lexical error) : Except ParseError Result) where
  forward := Nat.le_succ count
  lexical other := by simp [yielded]
  before index behind inside := by omega
  otherwise syntactic := absurd rfl (syntactic error)

theorem Accounts.take {lexeme : Lexeme} (accounts : Accounts lexer (first + 1) last outcome)
    (yielded : lexer.result first = .ok lexeme) : Accounts lexer first last outcome where
  forward := Nat.le_of_succ_le accounts.forward
  lexical error := by
    rw [accounts.lexical]
    constructor
    · rintro ⟨further, failed⟩
      exact ⟨Nat.lt_of_succ_lt further, failed⟩
    · rintro ⟨further, failed⟩
      -- The error cannot be the first result, which is a lexeme.
      refine ⟨Nat.lt_of_le_of_ne accounts.forward ?_, failed⟩
      rintro rfl
      simp [yielded] at failed
  before index behind inside := by
    rcases Nat.eq_or_lt_of_le behind with rfl | behind
    · exact ⟨lexeme, yielded⟩
    · exact accounts.before index behind inside
  otherwise syntactic index behind inside := by
    rcases Nat.eq_or_lt_of_le behind with rfl | behind
    · exact ⟨lexeme, yielded⟩
    · exact accounts.otherwise syntactic index behind inside

end

/-- An action that takes the results of every lexer one after the other. -/
def Faithful {Result : Type} (action : Action Result) : Prop :=
  ∀ lexer count parser, StandsBehind lexer count parser →
    ∃ last, StandsBehind lexer last (action parser).2 ∧ Accounts lexer count last (action parser).1

section
variable {State Result : Type}

theorem conclude_faithful (machine : Machine State Result) (state : State) :
    Faithful (conclude machine state) := by
  intro lexer count parser stands
  refine ⟨count, stands, Accounts.stay lexer count ?_⟩
  intro error
  unfold conclude
  cases machine.stop state parser.current.kind <;> simp [refuse]

theorem runFrom_accounts (machine : Machine State Result) (state : State) {current : Lexeme}
    {items : List Item} {ending : Position}
    (stands : StandsBehind lexer count ⟨current, ⟨items, ending⟩⟩) :
    ∃ last, StandsBehind lexer last (runFrom machine ending state current items).2 ∧
      Accounts lexer count last (runFrom machine ending state current items).1 := by
  -- Each lexeme that is taken moves the place by one result.
  fun_induction runFrom machine ending state current items generalizing count with
  | case1 items state current stuck => exact conclude_faithful machine state lexer count _ stands
  | case2 state current next taken =>
    obtain ⟨further, yielded⟩ := stands.take_ok rfl
    obtain ⟨last, final, accounts⟩ := conclude_faithful machine next lexer _ _ further
    exact ⟨last, final, accounts.take yielded⟩
  | case3 state current next taken lexeme rest ih =>
    obtain ⟨further, yielded⟩ := stands.take_ok rfl
    obtain ⟨last, final, accounts⟩ := ih further
    exact ⟨last, final, accounts.take yielded⟩
  | case4 state current next taken error rest =>
    obtain ⟨further, yielded⟩ := stands.take_error rfl
    exact ⟨count + 1, further, .fail yielded⟩

theorem run_faithful (machine : Machine State Result) (state : State) :
    Faithful (run machine state) :=
  fun _ _ _ stands => runFrom_accounts machine state stands

theorem runAfter_faithful {kind : Token.Kind} (notEnd : kind ≠ .endOfInput)
    (machine : Machine State Result) (state : State) : Faithful (runAfter kind machine state) := by
  rw [runAfter_eq_run notEnd]
  exact run_faithful _ none

end

theorem expect_accounts (kind : Token.Kind) {parser : Parser}
    (stands : StandsBehind lexer count parser) :
    (∃ found expected position, parser.expect kind =
      (.error (.unexpected found expected position), parser)) ∨
    (StandsBehind lexer (count + 1) (parser.expect kind).2 ∧
      Accounts lexer count (count + 1) (parser.expect kind).1 ∧
      ((parser.expect kind).1 = .ok parser.current ∨
        ∃ error, (parser.expect kind).1 = .error (.lexical error))) := by
  obtain ⟨current, ahead⟩ := parser
  unfold expect
  split
  · right
    cases next : ahead.next with
    | mk item behind =>
      cases item with
      | error error =>
        obtain ⟨further, yielded⟩ := stands.take_error next
        exact ⟨further, .fail yielded, .inr ⟨error, rfl⟩⟩
      | ok lexeme =>
        obtain ⟨further, yielded⟩ := stands.take_ok next
        have stayed : Accounts lexer (count + 1) (count + 1) (.ok current : Except ParseError Lexeme) :=
          .stay lexer (count + 1) (by simp)
        exact ⟨further, stayed.take yielded, .inl rfl⟩
  · left
    exact ⟨_, _, _, rfl⟩

theorem expect_faithful (kind : Token.Kind) : Faithful (expect kind) := by
  intro lexer count parser stands
  rcases expect_accounts kind stands with ⟨_, _, _, same⟩ | ⟨further, accounts, -⟩
  · rw [same]
    exact ⟨count, stands, .stay lexer count (by simp)⟩
  · exact ⟨count + 1, further, accounts⟩

end Parser

end Kaleidoscope
