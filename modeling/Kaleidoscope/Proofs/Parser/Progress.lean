import Kaleidoscope.Proofs.Form.Reads
import Kaleidoscope.Proofs.Grammar.Size
import Kaleidoscope.Proofs.Parser.Sequence

/-! Parsers on their way to the end.

Main statements: what is read with success has been taken token by token, and each of these tokens brings
the end nearer; so a tree is never read from nothing, nor from fewer tokens than it has trees inside.
-/

set_option autoImplicit false

namespace Kaleidoscope.Parser

/-- Tokens that are asked for and got one after the other, the end of the text not among them. -/
inductive Takes : Parser → List Lexeme → Parser → Prop where
  | nil (parser : Parser) : Takes parser [] parser
  | cons {parser next final : Parser} {taken : List Lexeme} :
      parser.current.token ≠ .endOfInput →
      expect parser.current.kind parser = (.ok parser.current, next) →
      Takes next taken final → Takes parser (parser.current :: taken) final

/-- How many tokens there may be up to the end. -/
def remaining (parser : Parser) : Nat :=
  parser.ahead.items.length + if parser.current.token = .endOfInput then 0 else 1

theorem remaining_lt_of_expect {kind : Token.Kind} {parser final : Parser} {lexeme : Lexeme}
    (notEnd : kind ≠ .endOfInput) (read : expect kind parser = (.ok lexeme, final)) :
    final.remaining < parser.remaining := by
  obtain ⟨-, fits, next⟩ := expect_eq_ok read
  have inner : parser.current.token ≠ .endOfInput := by
    intro ended
    exact notEnd (fits ▸ Lexeme.kind_eq_endOfInput_iff.mpr ended)
  simp only [remaining, if_neg inner]
  obtain ⟨current, items, ending⟩ := parser
  cases items with
  | nil =>
    -- Nothing is left but the end of the text.
    obtain ⟨ended, ahead⟩ := by simpa [Scan.next] using next
    simp [← ended, ← ahead, Lexeme.ending]
  | cons item rest =>
    obtain ⟨-, ahead⟩ := by simpa [Scan.next] using next
    simp only [← ahead, List.length_cons]
    split <;> omega

theorem Takes.remaining_le {parser final : Parser} {taken : List Lexeme}
    (takes : Takes parser taken final) : final.remaining + taken.length ≤ parser.remaining := by
  induction takes with
  | nil => exact Nat.le_refl _
  | cons inner read _ ih =>
    have nearer := remaining_lt_of_expect (mt Lexeme.kind_eq_endOfInput_iff.mp inner) read
    rw [List.length_cons]
    omega

section
variable {State Result : Type} {machine : Machine State Result}

theorem current_inner_of_shift {state next : State} {parser : Parser}
    (taken : machine.shift state parser.current.token = some next) :
    parser.current.token ≠ .endOfInput := by
  intro ended
  simp [ended, machine.shift_endOfInput] at taken

theorem run_takes {state : State} {parser final : Parser} {result : Result}
    (read : run machine state parser = (.ok result, final)) :
    ∃ taken last, Takes parser taken final ∧
      machine.shifts state (taken.map Lexeme.token) = some last ∧
      machine.shift last final.current.token = none ∧
      machine.stop last final.current.kind = .ok result := by
  -- Every token that is taken leaves less to take.
  induction size : parser.remaining using Nat.strong_induction_on generalizing parser state with
  | _ count ih =>
    cases moved : machine.shift state parser.current.token with
    | none =>
      rw [run_of_stuck moved, conclude, Prod.mk.injEq] at read
      obtain ⟨stopped, rfl⟩ := read
      refine ⟨[], state, .nil parser, rfl, moved, ?_⟩
      cases found : machine.stop state parser.current.kind with
      | error => simp [found, Except.mapError] at stopped
      | ok value => simpa [found, Except.mapError] using stopped
    | some next =>
      rw [run_of_taken moved] at read
      obtain ⟨lexeme, middle, eaten, read⟩ := Action.andThen_eq_ok read
      have inner := current_inner_of_shift moved
      have nearer := remaining_lt_of_expect (mt Lexeme.kind_eq_endOfInput_iff.mp inner) eaten
      obtain ⟨taken, last, takes, reached, stuck, stopped⟩ :=
        ih middle.remaining (size ▸ nearer) read rfl
      rw [← (expect_eq_ok eaten).1] at eaten
      refine ⟨parser.current :: taken, last, .cons inner eaten takes, ?_, stuck, stopped⟩
      rw [List.map_cons, Machine.shifts_cons moved, reached]

end

/-- A tree is read from something, and from no fewer tokens than there are trees in it. -/
def Action.Productive (action : Action Node) : Prop :=
  ∀ parser final tree, action parser = (.ok tree, final) →
    ∃ taken, taken ≠ [] ∧ Takes parser taken final ∧ tree.size ≤ taken.length

theorem Action.Productive.remaining_lt {action : Action Node} (productive : action.Productive)
    {parser final : Parser} {tree : Node} (read : action parser = (.ok tree, final)) :
    final.remaining < parser.remaining := by
  obtain ⟨taken, nonempty, takes, -⟩ := productive parser final tree read
  have positive := List.length_pos_of_ne_nil nonempty
  have fewer := takes.remaining_le
  omega

theorem productive_run {State : Type} {machine : Machine State Node} {state : State}
    (sized : ∀ {tokens last lookahead tree}, machine.shifts state tokens = some last →
      machine.stop last lookahead = .ok tree → tree.size ≤ tokens.length) :
    Action.Productive (run machine state) := by
  intro parser final tree read
  obtain ⟨taken, last, takes, reached, -, stopped⟩ := run_takes read
  have size := sized reached stopped
  rw [List.length_map] at size
  -- A tree counts itself, so it cannot have been read from nothing.
  have nonempty : taken ≠ [] := by
    rintro rfl
    exact absurd size (Nat.not_le.mpr tree.size_pos)
  exact ⟨taken, nonempty, takes, size⟩

end Kaleidoscope.Parser

namespace Kaleidoscope

theorem Expression.size_le_of_stop {state last : State} {tokens : List Token} {tree : Node}
    (initial : StateReads state []) (reached : machine.shifts state tokens = some last)
    (stopped : stop last = .ok tree) : tree.size ≤ tokens.length := by
  have reads : StateReads last ([] ++ tokens) := Machine.shifts_induction shift_reads initial reached
  exact (stop_reads reads stopped).sizeEach_le

theorem Expression.shift_of_shiftFactor {state next : State} {token : Token}
    (taken : shiftFactor state token = some next) : shift state token = some next := by
  unfold shiftFactor at taken
  split at taken
  · simp at taken
  · exact taken

theorem Form.size_le_of_stop {last : State} {tokens : List Token} {tree : Node}
    (reached : machine.shifts .start tokens = some last) (stopped : stop last = .ok tree) :
    tree.size ≤ tokens.length := by
  have reads : StateReads last ([] ++ tokens) := Machine.shifts_induction shift_reads .start reached
  exact (stop_reads reads stopped).size_le

namespace Parser

theorem form_productive : form.Productive := productive_run Form.size_le_of_stop

theorem expression_productive : expression.Productive :=
  productive_run (Expression.size_le_of_stop Expression.initial_reads)

theorem term_productive : term.Productive :=
  productive_run (Expression.size_le_of_stop (.factor .nil .none))

theorem factor_productive : factor.Productive := by
  apply productive_run
  intro tokens last lookahead tree reached stopped
  -- A factor is read by taking less than a term would take.
  have likewise : Expression.machine.shifts (.factor none []) tokens = some last :=
    Machine.shifts_embed id Expression.shift_of_shiftFactor reached
  exact Expression.size_le_of_stop (.factor .nil .none) likewise stopped

end Parser

end Kaleidoscope
