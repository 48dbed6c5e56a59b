import Kaleidoscope.Proofs.Node.Written
import Kaleidoscope.Proofs.Source.Accepted

/-! Programs that are not finished yet.

Whatever has been taken can be completed by a few words. So a program that fails at its end lacks
these words only, and one that fails before its end cannot be helped.

Main statement: a failed program can be completed by further lines exactly if it fails at its end, and
otherwise further lines do not change how it fails.
-/

set_option autoImplicit false

namespace Kaleidoscope

namespace SpellEach

theorem filler {token : Token} (member : token ∈ Machine.fillers) :
    ∃ word, SpellEach [word] [token] := by
  simp only [Machine.fillers, List.mem_cons, List.not_mem_nil, or_false] at member
  rcases member with rfl | rfl | rfl | rfl | rfl | rfl | rfl
  · exact ⟨"def", fixed (by decide)⟩
  · have literal : IsLiteral "1" Machine.literal := by decide +kernel
    exact ⟨"1", single (.number literal.parts literal.spells)⟩
  · exact ⟨"x", name (by decide +kernel)⟩
  · exact ⟨"(", fixed (by decide)⟩
  · exact ⟨")", fixed (by decide)⟩
  · exact ⟨"then", fixed (by decide)⟩
  · exact ⟨"else", fixed (by decide)⟩

theorem fillers {tokens : List Token} (within : tokens ⊆ Machine.fillers) :
    ∃ words, SpellEach words tokens := by
  induction tokens with
  | nil => exact ⟨[], [], rfl, rfl⟩
  | cons token rest ih =>
    obtain ⟨first, rest⟩ := List.cons_subset.mp within
    obtain ⟨word, spelled⟩ := filler first
    obtain ⟨words, others⟩ := ih rest
    exact ⟨[word] ++ words, spelled.append others⟩

end SpellEach

namespace Source

theorem lexemes_of_spelled {words : List String} {tokens : List Token}
    (spelled : SpellEach words tokens) (policy : Policy) :
    (∃ lexeme, last policy (" ".intercalate words) = .ok lexeme) ∧
      (lexemes policy (" ".intercalate words)).map Lexeme.token = tokens := by
  obtain ⟨spellings, rfl, rfl⟩ := spelled
  obtain ⟨ended, -, same⟩ := lexemes_of_spaced (Spaced.of_spellings spellings) policy
  exact ⟨ended, same⟩

theorem exists_completion {policy : Policy} {source : String} {ending : Lexeme}
    {final : Program.State} (ended : last policy source = .ok ending)
    (reached : Program.machine.shifts Program.start ((lexemes policy source).map Lexeme.token) =
      some final) :
    ∃ further nodes, program policy (source ++ "\n" ++ further) = .ok nodes := by
  obtain ⟨rest, nodes, within, whole, taken, stopped⟩ := Program.completable final
  obtain ⟨words, spelled⟩ := SpellEach.fillers within
  obtain ⟨⟨other, finished⟩, tokens⟩ := lexemes_of_spelled spelled policy
  obtain ⟨read, behind⟩ := joined ended (" ".intercalate words)
  refine ⟨" ".intercalate words, nodes, program_accepts_iff.mpr ⟨?_, whole, ?_, stopped⟩⟩
  · rw [behind, finished]
    exact ⟨_, rfl⟩
  · rw [read, List.map_append, List.map_map]
    have moved : (lexemes policy (" ".intercalate words)).map
        (Lexeme.token ∘ Lexeme.move (source.utf8ByteSize + 1) (1 + source.toList.count '\n')) =
          rest := tokens
    rw [moved, Machine.shifts_append, reached]
    exact taken

theorem program_of_notAtEnd {policy : Policy} {source : String} {error : ParseError}
    (failed : program policy source = .error error)
    (cause : (∃ failure, last policy source = .error failure) ∨
      ∀ other further, Program.machine.judge other Program.start (lexemes policy source ++ further) =
        .error error) (further : String) :
    program policy (source ++ "\n" ++ further) = .error error := by
  cases found : last policy source with
  | error failure =>
    obtain ⟨read, behind⟩ := joined_of_error found further
    rw [program_eq, read, behind, ← program_eq, failed]
  | ok ending =>
    have stuck := cause.resolve_left (by simp [found])
    rw [program_eq, (joined found further).1]
    exact stuck _ _

/-- Nothing that is written on further lines has an influence on an error in front of them, and what is
unfinished only can always be finished there. -/
theorem program_continued (policy : Policy) (source : String) (error : ParseError)
    (failed : program policy source = .error error) :
    ((∃ further nodes, program policy (source ++ "\n" ++ further) = .ok nodes) ↔ error.AtEnd) ∧
    (¬ error.AtEnd → ∀ further, program policy (source ++ "\n" ++ further) = .error error) := by
  have judged := failed
  rw [program_eq] at judged
  rcases Machine.judge_error_cases kind_ne_endOfInput kind_of_last judged with
    ⟨atEnd, ⟨ending, ended⟩, final, reached⟩ | ⟨notAtEnd, cause⟩
  · exact ⟨iff_of_true (exists_completion ended reached) atEnd, fun other => absurd atEnd other⟩
  · have unchanged := program_of_notAtEnd failed cause
    refine ⟨iff_of_false ?_ notAtEnd, fun _ => unchanged⟩
    rintro ⟨further, nodes, accepted⟩
    simp [unchanged further] at accepted

-- The first text lacks a closing parenthesis and more; in the second one a factor is missing in
-- front of an operator.
theorem program_continued_or_not :
    (program .reject "def f(x) if g(x, (1 # one" =
        .error (.unexpected .endOfInput (.kind .closeParen) ⟨25, 1, 26⟩) ∧
      ∃ further nodes,
        program .reject ("def f(x) if g(x, (1 # one" ++ "\n" ++ further) = .ok nodes) ∧
    program .reject "f(1, * (" = .error (.unexpected .operator .factor ⟨5, 1, 6⟩) ∧
    ∀ further, program .reject ("f(1, * (" ++ "\n" ++ further) =
      .error (.unexpected .operator .factor ⟨5, 1, 6⟩) := by
  have unfinished : program .reject "def f(x) if g(x, (1 # one" =
      .error (.unexpected .endOfInput (.kind .closeParen) ⟨25, 1, 26⟩) := by decide +kernel
  have wrong : program .reject "f(1, * (" = .error (.unexpected .operator .factor ⟨5, 1, 6⟩) := by
    decide +kernel
  exact ⟨⟨unfinished, (program_continued _ _ _ unfinished).1.mpr rfl⟩, wrong,
    (program_continued _ _ _ wrong).2 (by simp [ParseError.AtEnd])⟩

end Source

end Kaleidoscope
