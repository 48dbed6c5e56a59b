import Kaleidoscope.Proofs.Parser.Accounting
import Mathlib.Data.List.Intervals

/-! Runs of a parser.

A run is a list of operations, each of which finds the parser as the one before has left it, whether
that one has failed or not.

Main statement: in every run no result of the lexer is lost, repeated or put in another place.
-/

set_option autoImplicit false

namespace Kaleidoscope.Parser

variable {lexer : Lexer} {count first last : Nat}

inductive Operation where
  | expect (kind : Token.Kind)
  | parameters
  | expression
  | conditional
  | term
  | factor
  | call (callee : String)
  | definition
  | declaration
  | form
  | program
  deriving DecidableEq, Repr

inductive Answer where
  | lexeme (lexeme : Lexeme)
  | names (names : List String)
  | tree (tree : Node)
  | trees (trees : List Node)

def Action.answering {Result : Type} (action : Action Result) (wrap : Result → Answer) :
    Action Answer :=
  fun parser => ((action parser).1.map wrap, (action parser).2)

theorem Accounts.map {Result : Type} {outcome : Except ParseError Result}
    (accounts : Accounts lexer first last outcome) (wrap : Result → Answer) :
    Accounts lexer first last (outcome.map wrap) := by
  have same (error : ParseError) : outcome.map wrap = .error error ↔ outcome = .error error := by
    cases outcome <;> simp [Except.map]
  constructor
  · exact accounts.forward
  · intro error
    rw [same, accounts.lexical]
  · exact accounts.before
  · intro syntactic
    apply accounts.otherwise
    intro error
    rw [Ne, ← same]
    exact syntactic error

theorem Faithful.answering {Result : Type} {action : Action Result} (faithful : Faithful action)
    (wrap : Result → Answer) : Faithful (Action.answering action wrap) := by
  intro lexer count parser stands
  obtain ⟨last, final, accounts⟩ := faithful lexer count parser stands
  exact ⟨last, final, accounts.map wrap⟩

def Operation.perform : Operation → Action Answer
  | .expect kind => Action.answering (Parser.expect kind) .lexeme
  | .parameters => Action.answering Parser.parameters .names
  | .expression => Action.answering Parser.expression .tree
  | .conditional => Action.answering Parser.conditional .tree
  | .term => Action.answering Parser.term .tree
  | .factor => Action.answering Parser.factor .tree
  | .call callee => Action.answering (Parser.call callee) .tree
  | .definition => Action.answering Parser.definition .tree
  | .declaration => Action.answering Parser.declaration .tree
  | .form => Action.answering Parser.form .tree
  | .program => Action.answering Parser.program .trees

theorem perform_faithful (operation : Operation) : Faithful operation.perform := by
  cases operation with
  | expect kind => exact (expect_faithful kind).answering _
  | parameters | expression | term | factor | form | program =>
    exact (run_faithful _ _).answering _
  | conditional | call | definition | declaration =>
    exact (runAfter_faithful (by simp) _ _).answering _

/-- One operation of a run, from one place among the results to another. -/
structure Performs (lexer : Lexer) (operation : Operation) (parser : Parser) (first last : Nat) :
    Prop where
  stands : StandsBehind lexer last (operation.perform parser).2
  accounts : Accounts lexer first last (operation.perform parser).1
  refused : ∀ kind found expected position, operation = .expect kind →
    (operation.perform parser).1 = .error (.unexpected found expected position) →
      (operation.perform parser).2 = parser ∧ last = first
  taken : ∀ kind answer, operation = .expect kind → (operation.perform parser).1 = .ok answer →
    answer = .lexeme parser.current ∧ last = first + 1

theorem exists_performs (operation : Operation) {parser : Parser}
    (stands : StandsBehind lexer count parser) :
    ∃ last, Performs lexer operation parser count last := by
  -- Asking for a single token tells more than the other operations do.
  by_cases single : ∃ kind, operation = .expect kind
  · obtain ⟨kind, rfl⟩ := single
    have performed : (Operation.expect kind).perform parser =
      ((parser.expect kind).1.map .lexeme, (parser.expect kind).2) := rfl
    rcases expect_accounts kind stands with ⟨found, expected, position, same⟩ |
      ⟨further, accounts, same⟩
    · rw [same] at performed
      refine ⟨count, ?_, ?_, ?_, ?_⟩
      · rw [performed]
        exact stands
      · rw [performed]
        exact .stay lexer count (by simp [Except.map])
      · intros
        exact ⟨congrArg Prod.snd performed, rfl⟩
      · intro kind answer _ answered
        simp [performed, Except.map] at answered
    · refine ⟨count + 1, ?_, ?_, ?_, ?_⟩
      · rw [performed]
        exact further
      · rw [performed]
        exact accounts.map _
      · intro kind found expected position _ failed
        rcases same with same | ⟨error, same⟩ <;> simp [performed, same, Except.map] at failed
      · intro kind answer _ answered
        rcases same with same | ⟨error, same⟩
        · simp only [performed, same, Except.map] at answered
          exact ⟨(Except.ok.inj answered).symm, rfl⟩
        · simp [performed, same, Except.map] at answered
  · obtain ⟨last, final, accounts⟩ := perform_faithful operation lexer count parser stands
    refine ⟨last, final, accounts, ?_, ?_⟩
    · intro kind found expected position same
      exact absurd ⟨kind, same⟩ single
    · intro kind answer same
      exact absurd ⟨kind, same⟩ single

/-- The parser behind a run of operations, whatever their outcomes. -/
def behind (parser : Parser) (operations : List Operation) : Parser :=
  operations.foldl (fun parser operation => (operation.perform parser).2) parser

def outcomes (parser : Parser) : List Operation → List (Except ParseError Answer)
  | [] => []
  | operation :: rest =>
      (operation.perform parser).1 :: outcomes (operation.perform parser).2 rest

/-- The lexical errors that outcomes report. -/
def reported (outcomes : List (Except ParseError Answer)) : List LexicalError :=
  outcomes.filterMap fun
    | .error (.lexical error) => some error
    | _ => none

theorem reported_append (first second : List (Except ParseError Answer)) :
    reported (first ++ second) = reported first ++ reported second :=
  List.filterMap_append

/-- The lexical errors among the results from one place to another. -/
def errors (lexer : Lexer) (first last : Nat) : List LexicalError :=
  (List.Ico first last).filterMap fun index =>
    match lexer.result index with
    | .error error => some error
    | .ok _ => none

theorem errors_eq_nil (fine : ∀ index, first ≤ index → index < last →
      ∃ lexeme, lexer.result index = .ok lexeme) : errors lexer first last = [] := by
  unfold errors
  rw [List.filterMap_eq_nil_iff]
  intro index member
  obtain ⟨above, below⟩ := List.Ico.mem.mp member
  obtain ⟨lexeme, yielded⟩ := fine index above below
  rw [yielded]

theorem errors_append {middle : Nat} (before : first ≤ middle) (behind : middle ≤ last) :
    errors lexer first middle ++ errors lexer middle last = errors lexer first last := by
  unfold errors
  rw [← List.filterMap_append, List.Ico.append_consecutive before behind]

theorem Accounts.errors_eq {outcome : Except ParseError Answer}
    (accounts : Accounts lexer first last outcome) :
    errors lexer first last = reported [outcome] := by
  by_cases lexical : ∃ error, outcome = .error (.lexical error)
  · obtain ⟨error, rfl⟩ := lexical
    obtain ⟨further, failed⟩ := (accounts.lexical error).mp rfl
    -- In front of the error there are lexemes only.
    have before : errors lexer first (last - 1) = [] := by
      apply errors_eq_nil
      intro index above below
      exact accounts.before index above (by omega)
    rw [← errors_append (Nat.le_sub_one_of_lt further) (Nat.sub_le last 1), before]
    unfold errors
    rw [List.Ico.pred_singleton (Nat.zero_lt_of_lt further)]
    simp [failed, reported]
  · have syntactic : ∀ error, outcome ≠ .error (.lexical error) := by
      intro error same
      exact lexical ⟨error, same⟩
    rw [errors_eq_nil (accounts.otherwise syntactic)]
    cases outcome with
    | ok => rfl
    | error error =>
      cases error with
      | lexical error => exact absurd rfl (syntactic error)
      | unexpected => rfl

theorem exists_counts (operations : List Operation) {parser : Parser}
    (stands : StandsBehind lexer first parser) :
    ∃ count : Nat → Nat, count 0 = first ∧ first ≤ count operations.length ∧
      (∀ index (inside : index < operations.length),
        Performs lexer operations[index] (behind parser (operations.take index)) (count index)
          (count (index + 1))) ∧
      reported (outcomes parser operations) = errors lexer first (count operations.length) := by
  -- The operations share the results out among them, each from where the one before has stopped.
  induction operations generalizing parser first with
  | nil =>
    refine ⟨fun _ => first, rfl, Nat.le_refl first, ?_, ?_⟩
    · intro index inside
      exact absurd inside (Nat.not_lt_zero index)
    · have empty : Parser.errors lexer first first = [] := errors_eq_nil (by omega)
      exact empty.symm
  | cons operation rest ih =>
    obtain ⟨middle, performs⟩ := exists_performs operation stands
    obtain ⟨count, rfl, forward, inner, errors⟩ := ih performs.stands
    refine ⟨fun index => index.casesOn first count, rfl, ?_, ?_, ?_⟩
    · exact Nat.le_trans performs.accounts.forward forward
    · intro index inside
      cases index with
      | zero => exact performs
      | succ index => exact inner index (Nat.lt_of_succ_lt_succ inside)
    · change _ = Parser.errors lexer first (count rest.length)
      rw [← errors_append performs.accounts.forward forward, performs.accounts.errors_eq, ← errors]
      exact reported_append [_] _

theorem exists_account (policy : Policy) (source : String) (parser : Parser)
    (begun : ofScan (Source.scan policy source) = .ok parser) (operations : List Operation) :
    ∃ count : Nat → Nat, count 0 = 1 ∧ StandsBehind (Lexer.start policy source) 1 parser ∧
      (∀ index (inside : index < operations.length),
        Performs (Lexer.start policy source) operations[index]
          (behind parser (operations.take index)) (count index) (count (index + 1))) ∧
      reported (outcomes parser operations) =
        errors (Lexer.start policy source) 0 (count operations.length) := by
  have stands : StandsBehind (Lexer.start policy source) 1 parser := standsBehind_of_ofScan begun
  obtain ⟨count, start, forward, performs, errors⟩ := exists_counts operations stands
  refine ⟨count, start, stands, performs, ?_⟩
  have first : Parser.errors (Lexer.start policy source) 0 1 = [] := by
    obtain ⟨index, within, looked, -⟩ := stands.current
    apply errors_eq_nil
    intro other _ inside
    obtain rfl : other = index := by omega
    exact ⟨_, looked⟩
  rw [errors, ← errors_append (Nat.zero_le 1) forward, first, List.nil_append]

theorem account_across_error :
    ∃ parser, ofScan (Source.scan .reject "x $ y") = .ok parser ∧
      ∃ count : Nat → Nat, count 0 = 1 ∧ StandsBehind (Lexer.start .reject "x $ y") 1 parser ∧
        (∀ index (inside : index < [Operation.form, .form].length),
          Performs (Lexer.start .reject "x $ y") [Operation.form, .form][index]
            (behind parser ([Operation.form, .form].take index)) (count index)
            (count (index + 1))) ∧
        reported (outcomes parser [.form, .form]) =
          errors (Lexer.start .reject "x $ y") 0 (count 2) := by
  have found : (ofScan (Source.scan .reject "x $ y")).isOk = true := by decide +kernel
  cases begun : ofScan (Source.scan .reject "x $ y") with
  | error => simp [begun, Except.isOk, Except.toBool] at found
  | ok parser => exact ⟨parser, rfl, exists_account .reject "x $ y" parser begun [.form, .form]⟩

end Kaleidoscope.Parser
