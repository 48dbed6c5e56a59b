import Kaleidoscope.Proofs.Program.Acceptance
import Kaleidoscope.Proofs.Source.Reading

/-! Texts that are accepted.

Main statements: a text is read as a program exactly where its tokens are cut into forms that keep
apart, and it is read as the trees of these forms, which are the only ones; so a text that is cut into
forms in any way is read as a program, by the forms that are left where those that fuse are put
together.
-/

set_option autoImplicit false

namespace Kaleidoscope

theorem Grammar.Reading.unique {tokens : List Token} {nodes others : List Node}
    (reading : Reading tokens nodes) (other : Reading tokens others) : others = nodes :=
  (Program.accepts_iff.mpr other).unique (Program.accepts_iff.mpr reading)

theorem Program.lookahead_of_stop {state : State} {lookahead : Token.Kind} {nodes : List Node}
    (stopped : stop state lookahead = .ok nodes) : lookahead = .endOfInput := by
  unfold stop at stopped
  split at stopped
  · split at stopped <;> simp_all
  · simp at stopped
  · split at stopped <;> simp_all

namespace Source

theorem tokens_eq (policy : Policy) (source : String) :
    tokens policy source =
      (last policy source).map fun lexeme =>
        (lexemes policy source).map Lexeme.token ++ [lexeme.token] := by
  simp only [tokens, items_eq]
  induction lexemes policy source with
  | nil => cases last policy source <;> rfl
  | cons lexeme rest ih =>
    simp only [List.map_cons, List.cons_append, List.mapM_cons, ih]
    cases last policy source <;> rfl

theorem tokens_eq_ok_iff {policy : Policy} {source : String} {read : List Token} :
    tokens policy source = .ok (read ++ [.endOfInput]) ↔
      (∃ lexeme, last policy source = .ok lexeme) ∧
        (lexemes policy source).map Lexeme.token = read := by
  rw [tokens_eq]
  cases found : last policy source with
  | error error => simp [Except.map]
  | ok lexeme =>
    have ended := Lexeme.kind_eq_endOfInput_iff.mp (kind_of_last lexeme found)
    simp [Except.map, ended]

theorem program_accepts_iff {policy : Policy} {source : String} {nodes : List Node} :
    program policy source = .ok nodes ↔
      (∃ lexeme, last policy source = .ok lexeme) ∧
        Program.machine.Accepts Program.start ((lexemes policy source).map Lexeme.token) nodes := by
  rw [program_eq]
  exact Machine.judge_eq_ok_iff (fun _ _ _ => Program.lookahead_of_stop) kind_ne_endOfInput
    kind_of_last

theorem program_eq_ok_iff (policy : Policy) (source : String) (nodes : List Node) :
    (program policy source = .ok nodes ↔
      ∃ read, tokens policy source = .ok (read ++ [.endOfInput]) ∧ Grammar.Reading read nodes) ∧
    ∀ read others, Grammar.Reading read nodes → Grammar.Reading read others → others = nodes := by
  refine ⟨?_, fun read others reading other => reading.unique other⟩
  have inner : ∀ lexeme ∈ lexemes policy source, lexeme.kind ≠ .endOfInput :=
    fun _ member => mt Lexeme.kind_eq_endOfInput_iff.mp (token_ne_endOfInput member)
  rw [program_eq, Machine.judge_eq_ok_iff (fun _ _ _ => Program.lookahead_of_stop) inner kind_of_last,
    Program.accepts_iff]
  constructor
  · rintro ⟨ended, reading⟩
    exact ⟨_, tokens_eq_ok_iff.mpr ⟨ended, rfl⟩, reading⟩
  · rintro ⟨read, scanned, reading⟩
    obtain ⟨ended, rfl⟩ := tokens_eq_ok_iff.mp scanned
    exact ⟨ended, reading⟩

/-- The greedy reading of calls refuses no text that has forms: at each joint where a name meets a
parenthesis two forms are read as one. -/
theorem program_of_forms (policy : Policy) (source : String) (forms : List (List Token))
    (trees : List Node) (scanned : tokens policy source = .ok (forms.flatten ++ [.endOfInput]))
    (derived : Grammar.Program forms trees) :
    ∃ nodes, program policy source = .ok nodes ∧
      Grammar.Program (Grammar.mended forms) nodes ∧ nodes.length ≤ forms.length ∧
      nodes.length + Grammar.fusions forms = forms.length := by
  obtain ⟨nodes, mended, unfused, count⟩ := derived.mend
  rw [derived.length_eq] at count
  obtain ⟨ended, read⟩ := tokens_eq_ok_iff.mp scanned
  refine ⟨nodes, program_accepts_iff.mpr ⟨ended, ?_⟩, mended, by omega, count⟩
  rw [read, Program.accepts_iff]
  exact ⟨Grammar.mended forms, Grammar.flatten_mended forms, mended, unfused⟩

-- Two of five forms are swallowed, one of them by the last branch of a conditional in a body.
theorem program_of_forms_swallowed :
    ∃ forms trees nodes,
      tokens .reject "def f(x) if x then 1 else y (2) z (w) ? g()" =
        .ok (forms.flatten ++ [.endOfInput]) ∧
      Grammar.Program forms trees ∧ forms.length = 5 ∧ Grammar.fusions forms = 2 ∧
      program .reject "def f(x) if x then 1 else y (2) z (w) ? g()" = .ok nodes ∧
      nodes.length + 2 = 5 := by
  have body : Grammar.Derives .expression _ _ :=
    .conditional (.plain (.single (.identifier "x"))) (.plain (.single (.number (.ofQuotient 1 1))))
      (.plain (.single (.identifier "y")))
  have group : Grammar.Derives .expression _ _ :=
    .plain (.single (.group (.plain (.single (.number (.ofQuotient 2 1))))))
  have other : Grammar.Derives .expression _ _ :=
    .plain (.single (.group (.plain (.single (.identifier "w")))))
  have derived : Grammar.Program _ _ :=
    .cons (.definition ⟨"f", ["x"]⟩ body) (.cons (.expression group)
      (.cons (.expression (.plain (.single (.identifier "z")))) (.cons (.expression other)
        (.cons (.declaration ⟨"g", []⟩) .nil))))
  obtain ⟨nodes, read, -, -, count⟩ := program_of_forms .reject
    "def f(x) if x then 1 else y (2) z (w) ? g()" _ _ (by decide +kernel) derived
  exact ⟨_, _, nodes, by decide +kernel, derived, rfl, rfl, read, count⟩

end Source

end Kaleidoscope
