import Kaleidoscope.Proofs.Lexeme.Trimmed
import Kaleidoscope.Text.Blank

/-! Trimmed sources.

The blanks at the end of a source belong to a gap there, so what is read is the same without them.

Main statement: a trimmed source is read as the same program as the whole one, or it is refused for the
same reason in the same place, unless its end is what it is refused for.
-/

set_option autoImplicit false

namespace Kaleidoscope

/-- Two texts are read alike, but for an error that is found at the end of each. -/
inductive SameButEnd {Result : Type} (first second : Position) :
    Except ParseError Result → Except ParseError Result → Prop where
  | accepted (result : Result) : SameButEnd first second (.ok result) (.ok result)
  | refused {error : ParseError} :
      ¬ error.AtEnd → SameButEnd first second (.error error) (.error error)
  | unfinished (expected : Expectation) :
      SameButEnd first second (.error (.unexpected .endOfInput expected first))
        (.error (.unexpected .endOfInput expected second))

variable {State Result : Type}

theorem Machine.judge_sameButEnd (machine : Machine State Result) (state : State)
    {lexemes : List Lexeme} (inner : ∀ lexeme ∈ lexemes, lexeme.kind ≠ .endOfInput)
    (first second : Position) :
    SameButEnd first second (machine.judge (.ok (.ending first)) state lexemes)
      (machine.judge (.ok (.ending second)) state lexemes) := by
  -- The place of the end is looked at only behind all lexemes.
  rcases machine.shifts_cases state lexemes with
    ⟨before, lexeme, rest, final, rfl, reached, stuck⟩ | ⟨final, reached⟩
  · have notEnd : lexeme.kind ≠ .endOfInput := inner lexeme (by simp)
    rw [judge_append reached, judge_append reached, judge_cons_of_stuck stuck,
      judge_cons_of_stuck stuck]
    cases machine.stop final lexeme.kind with
    | ok result => exact .accepted result
    | error expected => exact .refused notEnd
  · have stopped (position : Position) :
        machine.judge (.ok (.ending position)) state lexemes =
          (machine.stop final .endOfInput).mapError (Parser.refuse (.ending position)) :=
      judge_of_shifts reached
    rw [stopped, stopped]
    cases machine.stop final .endOfInput with
    | ok result => exact .accepted result
    | error expected => exact .unfinished expected

theorem Machine.judge_unended (machine : Machine State Result) (state : State)
    {lexemes : List Lexeme} (inner : ∀ lexeme ∈ lexemes, lexeme.kind ≠ .endOfInput)
    (failure : LexicalError) (first second : Position) :
    SameButEnd first second (machine.judge (.error failure) state lexemes)
      (machine.judge (.error failure) state lexemes) := by
  -- In front of an error the end of a text is not reached.
  cases judged : machine.judge (.error failure) state lexemes with
  | ok result => exact .accepted result
  | error error =>
    rcases judge_error_cases inner (by simp) judged with ⟨-, ⟨_, ended⟩, -⟩ | ⟨notEnd, -⟩
    · exact nomatch ended
    · exact .refused notEnd

namespace Source

theorem judge_append_blanks {blanks : List Char}
    (white : ∀ char ∈ blanks, Unicode.isWhiteSpace char = true) (policy : Policy) (source : String)
    (machine : Machine State Result) (state : State) :
    SameButEnd (.behind source) (.behind (source ++ String.ofList blanks))
      (machine.judge (last policy source) state (lexemes policy source))
      (machine.judge (last policy (source ++ String.ofList blanks)) state
        (lexemes policy (source ++ String.ofList blanks))) := by
  obtain ⟨items, alone, extended⟩ := scan_append_blanks white policy source
  have inner : ∀ lexeme ∈ lexemes policy source, lexeme.kind ≠ .endOfInput := kind_ne_endOfInput
  simp only [last, lexemes, alone, extended, Scan.last, Scan.lexemes] at inner ⊢
  -- An error in the middle of a source hides how the source ends.
  cases found : items.find? (!Except.isOk ·) with
  | none => exact machine.judge_sameButEnd state inner _ _
  | some item =>
    cases item with
    | ok => simpa [Except.isOk, Except.toBool] using List.find?_some found
    | error failure => exact machine.judge_unended state inner failure _ _

theorem program_trimEnd (policy : Policy) (line : String) :
    (∃ blanks : List Char, line = Text.trimEnd line ++ String.ofList blanks ∧
      (∀ char ∈ blanks, Unicode.isWhiteSpace char = true) ∧
      ∀ char ∈ (Text.trimEnd line).toList.getLast?, Unicode.isWhiteSpace char = false) ∧
    SameButEnd (.behind (Text.trimEnd line)) (.behind line) (program policy (Text.trimEnd line))
      (program policy line) := by
  obtain ⟨blanks, parted, white, trimmed⟩ := Text.exists_trimEnd_append line
  refine ⟨⟨blanks, parted, white, trimmed⟩, ?_⟩
  have same := judge_append_blanks white policy (Text.trimEnd line) Program.machine Program.start
  rwa [← parted, ← program_eq, ← program_eq] at same

-- The blanks in front of the newline belong to the comment.
example : program .reject "f(x # \u00fc\u2003 \u3000\n" =
      .error (.unexpected .endOfInput (.kind .closeParen) ⟨16, 2, 1⟩) ∧
    program .reject (Text.trimEnd "f(x # \u00fc\u2003 \u3000\n") =
      .error (.unexpected .endOfInput (.kind .closeParen) ⟨8, 1, 8⟩) := by
  decide +kernel

end Source

end Kaleidoscope
