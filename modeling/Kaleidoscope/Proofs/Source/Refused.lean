import Kaleidoscope.Proofs.Program.Honesty
import Kaleidoscope.Proofs.Source.Reading

/-! Texts that are refused.

A text is a program if it can be cut into forms in any way; of a definition there is only one.

Main statement: what is said against a text is about its first problem, whether the text is read as a
program or as a definition.
-/

set_option autoImplicit false

namespace Kaleidoscope

namespace Grammar

def IsProgram (tokens : List Token) : Prop :=
  ∃ forms nodes, forms.flatten = tokens ∧ Program forms nodes

def IsDefinition (tokens : List Token) : Prop :=
  ∃ prototype rest body, tokens = .define :: prototypeTokens prototype ++ rest ∧
    Derives .expression rest [body]

theorem isProgram_iff {tokens : List Token} :
    IsProgram tokens ↔ ∃ nodes, Reading tokens nodes := by
  constructor
  · rintro ⟨forms, nodes, rfl, program⟩
    obtain ⟨nodes, whole, unfused, -⟩ := program.mend
    exact ⟨nodes, mended forms, flatten_mended forms, whole, unfused⟩
  · rintro ⟨nodes, forms, same, program, -⟩
    exact ⟨forms, nodes, same, program⟩

theorem Form.isDefinition {rest : List Token} {tree : Node} (form : Form (.define :: rest) tree) :
    IsDefinition (.define :: rest) := by
  cases form with
  | @definition tokens body prototype derivation => exact ⟨prototype, tokens, body, rfl, derivation⟩
  | expression derivation =>
    -- No expression begins with this word.
    have kind := Expression.kind_of_derives derivation
    simp [Token.kind] at kind

end Grammar

theorem Program.decides : machine.Decides start Grammar.IsProgram where
  accepts tokens := by simp only [Grammar.isProgram_iff, accepts_iff]
  completable := completable
  honest := honest

namespace Form

theorem accepts_define_iff {rest : List Token} :
    (∃ tree, machine.Accepts (.head .define .start) rest tree) ↔
      Grammar.IsDefinition (.define :: rest) := by
  constructor
  · rintro ⟨tree, final, reached, stopped⟩
    have initial : StateReads (.head .define .start) [.define] := .head .define .start
    exact (stop_reads (Machine.shifts_induction shift_reads initial reached) stopped).isDefinition
  · rintro ⟨prototype, tokens, body, same, derivation⟩
    have form := Grammar.Form.definition prototype derivation
    rw [← same] at form
    obtain ⟨final, reached, stopped, -⟩ := exists_shifts form
    exact ⟨_, final, reached, stopped⟩

theorem decides_definition :
    (machine.behind .define (by simp) (.head .define .start)).Decides none
      Grammar.IsDefinition where
  accepts tokens := by
    simp only [Machine.accepts_behind_iff]
    constructor
    · intro definition
      have other := definition
      obtain ⟨prototype, rest, body, rfl, -⟩ := other
      obtain ⟨tree, accepted⟩ := accepts_define_iff.mpr definition
      exact ⟨tree, .define, _, rfl, rfl, accepted⟩
    · rintro ⟨tree, token, rest, rfl, fits, accepted⟩
      obtain rfl : token = .define := by cases token <;> simp [Token.kind] at fits ⊢
      exact accepts_define_iff.mp ⟨tree, accepted⟩
  completable := by
    have begun (state : State) :
        (machine.behind .define (by simp) (.head .define .start)).Completable (some state) :=
      (completable state).embed some (fun taken => Option.map_eq_some_iff.mpr ⟨_, taken, rfl⟩)
        fun stopped => ⟨_, stopped⟩
    rintro (_ | state)
    · exact (begun _).of_shift .define (by simp [Machine.fillers]) rfl
    · exact begun state
  honest := by
    rintro (_ | state) lookahead expectation token refused admitted
    · obtain rfl := Except.error.inj refused
      have fits : token.kind = .define := admitted
      simp [Machine.behind, fits]
    · simpa [Machine.behind] using honest state lookahead expectation token refused admitted

end Form

namespace Source

theorem exists_diagnosis (policy : Policy) (source : String) :
    ∃ lexemes last, items policy source = lexemes.map .ok ++ [last] ∧
      (∀ lexeme ∈ lexemes, lexeme.token ≠ .endOfInput) ∧
      ((∃ position, last = .ok (.ending position)) ∨ ∃ error, last = .error error) ∧
      Diagnosis Grammar.IsProgram lexemes last (program policy source) ∧
      Diagnosis Grammar.IsDefinition lexemes last (definition policy source) := by
  refine ⟨lexemes policy source, last policy source, items_eq policy source, ?_, ?_, ?_, ?_⟩
  · intro lexeme member
    exact token_ne_endOfInput member
  · exact last_cases policy source
  · rw [program_eq]
    exact Program.decides.diagnosis _ kind_of_last
  · rw [definition_eq]
    exact Form.decides_definition.diagnosis _ kind_of_last

end Source

end Kaleidoscope
