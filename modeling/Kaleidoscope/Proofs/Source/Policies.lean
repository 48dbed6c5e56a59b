import Kaleidoscope.Proofs.Lexeme.Resumed
import Kaleidoscope.Proofs.Source.Accepted

/-! Texts under both policies.

Main statement: going on behind unknown characters is skipping them, and a text that is not refused for
one of them is read the same way whether they are skipped or not.
-/

set_option autoImplicit false

namespace Kaleidoscope

def ParseError.isUnknown : ParseError → Bool
  | .lexical error => error.isUnknown
  | .unexpected .. => false

theorem Scan.skipping_cases (items : List Item) (ending : Position) :
    (lexemes ⟨items.filter (!Item.isUnknown ·), ending⟩ = lexemes ⟨items, ending⟩ ∧
      last ⟨items.filter (!Item.isUnknown ·), ending⟩ = last ⟨items, ending⟩) ∨
    ∃ char position further, last ⟨items, ending⟩ = .error (.unknownCharacter char position) ∧
      lexemes ⟨items.filter (!Item.isUnknown ·), ending⟩ = lexemes ⟨items, ending⟩ ++ further := by
  induction items with
  | nil => exact .inl ⟨rfl, rfl⟩
  | cons item rest ih =>
    cases item with
    | ok lexeme =>
      rcases ih with ⟨read, behind⟩ | ⟨char, position, further, failed, read⟩
      · exact .inl ⟨congrArg (lexeme :: ·) read, behind⟩
      · exact .inr ⟨char, position, further, failed, congrArg (lexeme :: ·) read⟩
    | error error =>
      cases error with
      | malformedNumber => exact .inl ⟨rfl, rfl⟩
      | unknownCharacter char position => exact .inr ⟨char, position, _, rfl, rfl⟩

namespace Machine

variable {State Result : Type} {machine : Machine State Result} {state : State}
  {lexemes : List Lexeme} {failure : LexicalError}

theorem last_of_judge_lexical {last : Item}
    (failed : machine.judge last state lexemes = .error (.lexical failure)) :
    last = .error failure := by
  have syntactic {lexeme : Lexeme} {stopped : Except Expectation Result} :
      stopped.mapError (Parser.refuse lexeme) ≠ .error (.lexical failure) := by
    cases stopped <;> simp [Parser.refuse]
  rcases machine.shifts_cases state lexemes with
    ⟨before, lexeme, rest, final, rfl, reached, stuck⟩ | ⟨final, reached⟩
  · rw [judge_append reached, judge_cons_of_stuck stuck] at failed
    exact absurd failed syntactic
  · rw [judge_of_shifts reached] at failed
    cases last with
    | ok => exact absurd failed syntactic
    | error => exact congrArg _ (ParseError.lexical.inj (Except.error.inj failed))

-- Where the error behind the lexemes is not what is reported, it has not been read.
theorem judge_of_unreported
    (unreported : machine.judge (.error failure) state lexemes ≠ .error (.lexical failure))
    (other : Item) (further : List Lexeme) :
    machine.judge other state (lexemes ++ further) =
      machine.judge (.error failure) state lexemes := by
  rcases machine.shifts_cases state lexemes with
    ⟨before, lexeme, rest, final, rfl, reached, stuck⟩ | ⟨final, reached⟩
  · rw [List.append_assoc, judge_append reached, judge_append reached, List.cons_append,
      judge_cons_of_stuck stuck, judge_cons_of_stuck stuck]
  · exact absurd (judge_of_shifts reached) unreported

end Machine

namespace Source

theorem skipping_cases (source : String) :
    (lexemes .skip source = lexemes .reject source ∧ last .skip source = last .reject source) ∨
    ∃ char position further, last .reject source = .error (.unknownCharacter char position) ∧
      lexemes .skip source = lexemes .reject source ++ further := by
  have skipped : scan .skip source = _ := (Cursor.start source).scan_skip
  unfold lexemes last
  rw [skipped]
  exact Scan.skipping_cases _ _

theorem isUnknown_last_skip (source : String) : (last .skip source).isUnknown = false := by
  have skipped : scan .skip source = _ := (Cursor.start source).scan_skip
  unfold last Scan.last
  cases found : (scan .skip source).items.find? (!Except.isOk ·) with
  | none => rfl
  | some item =>
    have member := List.mem_of_find?_eq_some found
    rw [skipped] at member
    simpa using (List.mem_filter.mp member).2

theorem isUnknown_of_mem_items_skip {source : String} {item : Item}
    (member : item ∈ items .skip source) : item.isUnknown = false := by
  rw [items_eq, List.mem_append, List.mem_singleton, List.mem_map] at member
  rcases member with ⟨lexeme, -, rfl⟩ | rfl
  · rfl
  · exact isUnknown_last_skip source

theorem exists_isWithout_result (source : String) :
    ∃ place, IsWithout Item.isUnknown (Lexer.start .reject source).result
      (Lexer.start .skip source).result place :=
  Lexer.exists_isWithout_result rfl rfl rfl

theorem isUnknown_result_skip (source : String) (index : Nat) :
    ((Lexer.start .skip source).result index).isUnknown = false := by
  obtain ⟨place, without⟩ := exists_isWithout_result source
  rw [without.same]
  exact (without.kept _).mp ⟨index, rfl⟩

/-- Skipping never fails for an unknown character, and where rejecting does not either, both do the
same. -/
structure Undivided {ε α : Type} (isUnknown : ε → Bool) (rejected skipped : Except ε α) : Prop where
  known : ∀ error, skipped = .error error → isUnknown error = false
  same : (∀ error, rejected = .error error → isUnknown error = false) → skipped = rejected

theorem undivided_tokens (source : String) :
    Undivided LexicalError.isUnknown (tokens .reject source) (tokens .skip source) where
  known error failed := by
    have known := isUnknown_last_skip source
    rw [tokens_eq] at failed
    cases found : last .skip source with
    | ok => simp [found, Except.map] at failed
    | error other =>
      rw [found] at known failed
      obtain rfl := Except.error.inj failed
      exact known
  same known := by
    rw [tokens_eq, tokens_eq]
    rcases skipping_cases source with ⟨read, behind⟩ | ⟨char, position, -, failed, -⟩
    · rw [read, behind]
    · rw [tokens_eq, failed] at known
      exact absurd (known _ rfl) (by simp [LexicalError.isUnknown])

theorem undivided_judge {State Result : Type} (machine : Machine State Result) (state : State)
    (source : String) :
    Undivided ParseError.isUnknown
      (machine.judge (last .reject source) state (lexemes .reject source))
      (machine.judge (last .skip source) state (lexemes .skip source)) where
  known error failed := by
    cases error with
    | unexpected => rfl
    | lexical failure =>
      have known := isUnknown_last_skip source
      rw [Machine.last_of_judge_lexical failed] at known
      exact known
  same known := by
    rcases skipping_cases source with ⟨read, behind⟩ | ⟨char, position, further, failed, read⟩
    · rw [read, behind]
    · rw [failed] at known ⊢
      rw [read]
      refine Machine.judge_of_unreported ?_ _ further
      intro reported
      exact absurd (known _ reported) (by simp [ParseError.isUnknown, LexicalError.isUnknown])

theorem items_skip {source : String}
    (known : ∀ item ∈ items .reject source, item.isUnknown = false) :
    items .skip source = items .reject source := by
  rw [items_eq, items_eq]
  rcases skipping_cases source with ⟨read, behind⟩ | ⟨char, position, -, failed, -⟩
  · rw [read, behind]
  · rw [items_eq, failed] at known
    exact absurd (known _ (List.mem_append_right _ (List.mem_singleton_self _)))
      (by simp [Item.isUnknown, LexicalError.isUnknown])

theorem result_of_length_le (policy : Policy) (source : String) {index : Nat}
    (behind : (scan policy source).items.length ≤ index) :
    (Lexer.start policy source).result index =
      .ok (.ending (Position.start.after source.toList)) := by
  have ended : (scan policy source).ending = Position.start.after source.toList :=
    (Cursor.start source).scan_ending policy
  have result : (Lexer.start policy source).result index =
      (scan policy source).items[index]?.getD (.ok (.ending (scan policy source).ending)) :=
    Lexer.result_eq ..
  rw [result, List.getElem?_eq_none_iff.mpr behind, ended]
  rfl

/-- Resumed behind each unknown character, a rejecting scan is the skipping one; and where no unknown
character is reported, rejecting and skipping make no difference. -/
theorem skip_of_reject (source : String) :
    (∃ place, IsWithout Item.isUnknown (Lexer.start .reject source).result
      (Lexer.start .skip source).result place) ∧
    (∀ index, ((Lexer.start .skip source).result index).isUnknown = false) ∧
    (∃ count, ∀ policy index, count ≤ index → (Lexer.start policy source).result index =
      .ok (.ending (Position.start.after source.toList))) ∧
    ((∀ item ∈ items .reject source, item.isUnknown = false) →
      items .skip source = items .reject source) ∧
    Undivided LexicalError.isUnknown (tokens .reject source) (tokens .skip source) ∧
    Undivided ParseError.isUnknown (definition .reject source) (definition .skip source) ∧
    Undivided ParseError.isUnknown (program .reject source) (program .skip source) := by
  refine ⟨exists_isWithout_result source, isUnknown_result_skip source, ?_, items_skip,
    undivided_tokens source, ?_, ?_⟩
  · refine ⟨(scan .reject source).items.length + (scan .skip source).items.length, ?_⟩
    intro policy index behind
    apply result_of_length_le
    cases policy <;> omega
  · rw [definition_eq, definition_eq]
    exact undivided_judge ..
  · rw [program_eq, program_eq]
    exact undivided_judge ..

-- The definition is read whole in front of the unknown character, the program is not.
theorem skip_of_reject_unread :
    definition .reject "def f(x) x ) $ 1.2.3" =
      .ok (.definition ⟨"f", ["x"]⟩ (.identifier "x")) ∧
    definition .skip "def f(x) x ) $ 1.2.3" = definition .reject "def f(x) x ) $ 1.2.3" ∧
    tokens .reject "def f(x) x ) $ 1.2.3" = .error (.unknownCharacter '$' ⟨13, 1, 14⟩) ∧
    tokens .skip "def f(x) x ) $ 1.2.3" = .error (.malformedNumber "1.2.3" ⟨15, 1, 16⟩) := by
  have accepted : definition .reject "def f(x) x ) $ 1.2.3" =
      .ok (.definition ⟨"f", ["x"]⟩ (.identifier "x")) := by decide +kernel
  refine ⟨accepted, ?_, by decide +kernel, by decide +kernel⟩
  apply (skip_of_reject "def f(x) x ) $ 1.2.3").2.2.2.2.2.1.same
  simp [accepted]

end Source

end Kaleidoscope
