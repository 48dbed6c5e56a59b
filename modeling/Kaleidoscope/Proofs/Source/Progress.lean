import Kaleidoscope.Proofs.Lexeme.Progress
import Kaleidoscope.Proofs.Parser.Descent
import Kaleidoscope.Proofs.Source.Accepted

/-! Sources that are read to their end.

Main statement: lexers and parsers make their way to the end of a source, whatever they meet; so the calls
that read a program are nested no deeper than the length of its text allows, and the program has no more
trees in it than the source has tokens.
-/

set_option autoImplicit false

namespace Kaleidoscope

open Node (sizeEach)

theorem Parser.program_takes {parser final : Parser} {nodes : List Node}
    (read : program parser = (.ok nodes, final)) :
    ∃ taken, Takes parser taken final ∧ final.current.token = .endOfInput ∧
      sizeEach nodes ≤ taken.length := by
  obtain ⟨taken, last, takes, reached, -, stopped⟩ := run_takes read
  have ended : final.current.kind = .endOfInput := Program.lookahead_of_stop stopped
  have reads : Program.StateReads last ([] ++ taken.map Lexeme.token) :=
    Machine.shifts_induction Program.shift_reads Program.initial_reads reached
  rw [ended] at stopped
  have size := (Program.stop_reads reads stopped).sizeEach_le
  rw [List.nil_append, List.length_map] at size
  exact ⟨taken, takes, Lexeme.kind_eq_endOfInput_iff.mp ended, size⟩

theorem Parser.remaining_le_of_ofScan {scan : Scan} {parser : Parser}
    (begun : ofScan scan = .ok parser) : parser.remaining ≤ scan.items.length := by
  obtain ⟨items, ending⟩ := scan
  cases items with
  | nil =>
    obtain rfl := Except.ok.inj begun
    exact Nat.le_refl 0
  | cons item rest =>
    cases item with
    | error => cases begun
    | ok lexeme =>
      obtain rfl := Except.ok.inj begun
      simp only [remaining, Scan.next, List.length_cons]
      split <;> omega

namespace Source

/-- What comes of a source if no more than so many calls may be open at a time. -/
def descended (depth : Nat) (policy : Policy) (source : String) :
    Option (Except ParseError (List Node)) :=
  match Parser.ofScan (scan policy source) with
  | .ok parser => ((Parser.Procedure.furtherForms []).descend depth parser).map Prod.fst
  | .error error => some (.error (.lexical error))

theorem descended_eq {depth : Nat} (policy : Policy) (source : String)
    (enough : 5 * source.toList.length + 4 < depth) :
    descended depth policy source = some (program policy source) := by
  have items : (scan policy source).items.length ≤ source.toList.length :=
    (Lexer.start policy source).cursor.length_items_le policy
  unfold descended program parse
  cases begun : Parser.ofScan (scan policy source) with
  | error error => rfl
  | ok parser =>
    have ahead := Parser.remaining_le_of_ofScan begun
    have rank : (Parser.Procedure.furtherForms []).effort parser = 5 * parser.remaining + 4 := rfl
    have settled : (Parser.Procedure.furtherForms []).descend depth parser =
        some (Parser.program parser) := Parser.Procedure.descend_settles (by omega)
    simp only [settled, Option.map_some]

theorem advances_to_end (policy : Policy) (source : String) :
    (∀ steps, ∀ lexer ∈ Lexer.run [Lexer.start policy source] steps, lexer.Progresses source) ∧
    (∀ action ∈ [Parser.form, Parser.expression, Parser.term, Parser.factor], action.Productive) ∧
    (∀ {α : Type} (procedure : Parser.Procedure α) (parser : Parser) (depth : Nat),
      procedure.effort parser < depth →
        procedure.descend depth parser = some (procedure.action parser)) ∧
    (∀ depth, 5 * source.toList.length + 4 < depth →
      descended depth policy source = some (program policy source)) ∧
    (∀ parser final nodes, Parser.program parser = (.ok nodes, final) →
      ∃ taken, Parser.Takes parser taken final ∧ final.current.token = .endOfInput ∧
        sizeEach nodes ≤ taken.length) ∧
    ∀ nodes, program policy source = .ok nodes →
      ∃ read, tokens policy source = .ok (read ++ [.endOfInput]) ∧ .endOfInput ∉ read ∧
        sizeEach nodes ≤ read.length := by
  refine ⟨Lexer.run_progresses policy source, ?_, ?_, ?_, ?_, ?_⟩
  · simp only [List.forall_mem_cons]
    exact ⟨Parser.form_productive, Parser.expression_productive, Parser.term_productive,
      Parser.factor_productive, by simp⟩
  · intro α procedure parser depth enough
    exact Parser.Procedure.descend_settles enough
  · intro depth enough
    exact descended_eq policy source enough
  · intro parser final nodes read
    exact Parser.program_takes read
  · intro nodes read
    obtain ⟨ended, accepted⟩ := program_accepts_iff.mp read
    refine ⟨_, tokens_eq_ok_iff.mpr ⟨ended, rfl⟩, ?_, (Program.accepts_iff.mp accepted).sizeEach_le⟩
    intro member
    obtain ⟨lexeme, found, same⟩ := List.mem_map.mp member
    exact token_ne_endOfInput found same

-- There may be as many trees as tokens.
example : (program .reject "a + 1 b * c").map sizeEach = .ok 6 ∧
    tokens .reject "a + 1 b * c" = .ok ([.identifier "a", .operator .plus, .number (.ofQuotient 1 1),
      .identifier "b", .operator .times, .identifier "c"] ++ [.endOfInput]) := by
  decide +kernel

end Source

end Kaleidoscope
