import Kaleidoscope.Proofs.Lexeme.Joined
import Kaleidoscope.Proofs.Machine.Relocation
import Kaleidoscope.Proofs.Source.Accepted

/-! Programs in front of programs.

Main statement: behind a program and a newline a text is read as it is read alone, unless it goes on
with the last form in front of it; what is wrong with it is found in its new place.
-/

set_option autoImplicit false

namespace Kaleidoscope

/-- The error with more bytes and lines in front of its text. -/
def ParseError.move (bytes lines : Nat) : ParseError → ParseError
  | .unexpected found expected position => .unexpected found expected (position.move bytes lines)
  | .lexical error => .lexical (error.move bytes lines)

theorem Item.move_eq (bytes lines : Nat) (item : Item) :
    item.move bytes lines = item.relocate (Position.move bytes lines) := by
  rcases item with (_ | _) | _ <;> rfl

theorem ParseError.move_eq (bytes lines : Nat) :
    ParseError.move bytes lines = ParseError.relocate (Position.move bytes lines) := by
  funext error
  rcases error with _ | (_ | _) <;> rfl

namespace Program

def State.behind (before : List Node) (state : State) : State :=
  ⟨state.before ++ before, state.form⟩

theorem shift_behind (before : List Node) (state : State) (token : Token) :
    shift (state.behind before) token = (shift state token).map (State.behind before) := by
  unfold shift State.behind
  cases Form.shift state.form token with
  | some form => rfl
  | none =>
    cases Form.stop state.form with
    | error => rfl
    | ok tree => cases Form.shift .start token <;> rfl

theorem stop_behind (before : List Node) (state : State) (lookahead : Token.Kind) :
    stop (state.behind before) lookahead =
      (stop state lookahead).map (before.reverse ++ ·) := by
  obtain ⟨prior, form⟩ := state
  unfold stop State.behind
  by_cases ended : lookahead = .endOfInput
  · cases form <;> cases Form.stop _ <;> simp [ended, Except.map]
  · cases form <;> cases Form.stop _ <;> simp [ended, Except.map]

theorem judge_begins {before : List Node} {form : Form.State} {tree : Node} {lexemes : List Lexeme}
    (stuck : ∀ lexeme ∈ lexemes.head?, Form.shift form lexeme.token = none)
    (stopped : Form.stop form = .ok tree) (last : Item) :
    machine.judge last ⟨before, form⟩ lexemes =
      machine.judge last ⟨tree :: before, .start⟩ lexemes := by
  cases lexemes with
  | nil => simp only [Machine.judge, machine, stop_begins stopped]
  | cons lexeme rest =>
    have begins : shift ⟨before, form⟩ lexeme.token = shift ⟨tree :: before, .start⟩ lexeme.token :=
      shift_begins (stuck lexeme rfl) stopped
    simp only [Machine.judge, machine, begins, stop_begins stopped]

theorem judge_of_stop {final : State} {tokens : List Token} {nodes : List Node}
    {lexemes : List Lexeme} (reads : StateReads final tokens)
    (stopped : stop final .endOfInput = .ok nodes)
    (notOperator : ∀ lexeme ∈ lexemes.head?, lexeme.kind ≠ .operator)
    (apart : Grammar.fuses tokens (lexemes.map Lexeme.token) = false) (last : Item) :
    machine.judge last final lexemes = machine.judge last (start.behind nodes.reverse) lexemes := by
  obtain ⟨forms, current, rfl, -, reads, -, -⟩ := reads
  obtain ⟨before, form⟩ := final
  by_cases begun : form = .start
  · subst begun
    obtain rfl : before.reverse = nodes := Except.ok.inj stopped
    simp [start, State.behind]
  · rw [stop_of_begun begun] at stopped
    cases whole : Form.stop form with
    | error => simp [whole, Except.map] at stopped
    | ok tree =>
      obtain rfl : before.reverse ++ [tree] = nodes := by simpa [whole, Except.map] using stopped
      rw [Grammar.fuses_append_left (Form.stop_reads reads whole).ne_nil] at apart
      have stuck : ∀ lexeme ∈ lexemes.head?, Form.shift form lexeme.token = none := by
        intro lexeme first
        refine Form.stuck_of_stop reads whole (notOperator lexeme first) ?_
        cases lexemes with
        | nil => simp at first
        | cons =>
          obtain rfl := Option.some.inj first
          simpa [Grammar.fuses] using apart
      rw [judge_begins stuck whole]
      simp [start, State.behind]

theorem judge_behind (nodes : List Node) (bytes lines : Nat) (last : Item)
    (lexemes : List Lexeme) :
    machine.judge (last.move bytes lines) (start.behind nodes.reverse)
        (lexemes.map (Lexeme.move bytes lines)) =
      ((machine.judge last start lexemes).map (nodes ++ ·)).mapError
        (ParseError.move bytes lines) := by
  rw [Item.move_eq, ParseError.move_eq]
  refine Machine.judge_embed (State.behind nodes.reverse) (nodes ++ ·) (shift_behind _) ?_ ..
  intro state lookahead
  have stopped := stop_behind nodes.reverse state lookahead
  rw [List.reverse_reverse] at stopped
  exact stopped

end Program

namespace Source

/-- The second text does not go on with what the first one ends with, neither by an operator nor by a
parenthesis that calls a name. -/
structure Apart (policy : Policy) (first second : String) : Prop where
  notOperator : ∀ next ∈ (lexemes policy second).head?, next.kind ≠ .operator
  notCalled : ∀ name ∈ (lexemes policy first).getLast?, ∀ next ∈ (lexemes policy second).head?,
    name.kind = .identifier → next.kind ≠ .openParen

theorem Apart.fuses_eq {policy : Policy} {first second : String}
    (apart : Apart policy first second) :
    Grammar.fuses ((lexemes policy first).map Lexeme.token)
      ((lexemes policy second).map Lexeme.token) = false := by
  rw [← Bool.not_eq_true, Grammar.fuses_map_iff]
  rintro ⟨name, next, ends, begins, named, opened⟩
  exact apart.notCalled name ends next begins named opened

theorem program_joined (policy : Policy) (first second : String) (nodes : List Node)
    (accepted : program policy first = .ok nodes) (apart : Apart policy first second) :
    (∀ others, program policy second = .ok others →
      program policy (first ++ "\n" ++ second) = .ok (nodes ++ others)) ∧
    ∀ error, program policy second = .error error →
      program policy (first ++ "\n" ++ second) =
        .error (error.move (first.utf8ByteSize + 1) (1 + first.toList.count '\n')) := by
  obtain ⟨⟨ending, ended⟩, final, reached, stopped⟩ := program_accepts_iff.mp accepted
  have reads := Machine.shifts_induction Program.shift_reads Program.initial_reads reached
  obtain ⟨read, behind⟩ := joined ended second
  generalize first.utf8ByteSize + 1 = bytes, 1 + first.toList.count '\n' = lines at read behind ⊢
  have notOperator : ∀ next ∈ ((lexemes policy second).map (Lexeme.move bytes lines)).head?,
      next.kind ≠ .operator := by
    simpa using apart.notOperator
  have notCalled : Grammar.fuses ((lexemes policy first).map Lexeme.token)
      (((lexemes policy second).map (Lexeme.move bytes lines)).map Lexeme.token) = false := by
    rw [List.map_map]
    exact apart.fuses_eq
  have same : program policy (first ++ "\n" ++ second) =
      ((program policy second).map (nodes ++ ·)).mapError (ParseError.move bytes lines) := by
    rw [program_eq, read, Machine.judge_append reached,
      Program.judge_of_stop reads stopped notOperator notCalled, behind, Program.judge_behind,
      program_eq]
  constructor
  · intro others alone
    rw [same, alone]
    rfl
  · intro error alone
    rw [same, alone]
    rfl

-- The comment ends with its line, and the unfinished call is found on the next one.
theorem program_joined_behind_comment :
    program .reject "def f(x) x # \u00fc" = .ok [.definition ⟨"f", ["x"]⟩ (.identifier "x")] ∧
    Apart .reject "def f(x) x # \u00fc" "g(1," ∧
    program .reject "g(1," = .error (.unexpected .endOfInput .factor ⟨4, 1, 5⟩) ∧
    program .reject ("def f(x) x # \u00fc" ++ "\n" ++ "g(1,") =
      .error (.unexpected .endOfInput .factor ⟨20, 2, 5⟩) := by
  have accepted : program .reject "def f(x) x # \u00fc" =
      .ok [.definition ⟨"f", ["x"]⟩ (.identifier "x")] := by decide +kernel
  have apart : Apart .reject "def f(x) x # \u00fc" "g(1," :=
    ⟨by decide +kernel, by decide +kernel⟩
  have failed : program .reject "g(1," =
      .error (.unexpected .endOfInput .factor ⟨4, 1, 5⟩) := by decide +kernel
  exact ⟨accepted, apart, failed, (program_joined _ _ _ _ accepted apart).2 _ failed⟩

end Source

end Kaleidoscope
