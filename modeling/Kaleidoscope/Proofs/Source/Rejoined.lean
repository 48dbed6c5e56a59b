import Kaleidoscope.Proofs.Source.Shape

/-! Texts put together again from their lexemes.

With a blank between any two of them, lexemes are read again as what they are, whatever stood between
them before: numbers that begin or end with a point, names behind numbers, either spelling of a
definition.

Main statement: a text that is scanned to its end and the text of its lexemes with blanks between them
have the same tokens with the same texts, and they are parsed alike.
-/

set_option autoImplicit false

namespace Kaleidoscope

/-- The texts of the lexemes with a blank between any two of them. -/
def Lexeme.rejoined (lexemes : List Lexeme) : String := " ".intercalate (lexemes.map Lexeme.text)

theorem SpellEach.of_lexemes {lexemes : List Lexeme}
    (each : ∀ lexeme ∈ lexemes, Spells lexeme.text lexeme.token) :
    SpellEach (lexemes.map Lexeme.text) (lexemes.map Lexeme.token) := by
  induction lexemes with
  | nil => exact ⟨[], rfl, rfl⟩
  | cons lexeme rest ih =>
    obtain ⟨first, others⟩ := List.forall_mem_cons.mp each
    exact (SpellEach.single first).append (ih others)

namespace Source

theorem spells_of_mem_lexemes {policy : Policy} {source : String} {lexeme : Lexeme}
    (member : lexeme ∈ lexemes policy source) : Spells lexeme.text lexeme.token := by
  have item : .ok lexeme ∈ items policy source := by
    rw [items_eq]
    exact List.mem_append_left _ (List.mem_map_of_mem member)
  rcases spells_of_mem item with ended | ⟨spells, -⟩
  · exact absurd ended (token_ne_endOfInput member)
  · exact spells

theorem lexemes_rejoined (policy other : Policy) (source : String) :
    (∃ ending, last other (Lexeme.rejoined (lexemes policy source)) = .ok ending) ∧
      (lexemes other (Lexeme.rejoined (lexemes policy source))).map Lexeme.text =
        (lexemes policy source).map Lexeme.text ∧
      (lexemes other (Lexeme.rejoined (lexemes policy source))).map Lexeme.token =
        (lexemes policy source).map Lexeme.token := by
  have each : ∀ lexeme ∈ lexemes policy source, Spells lexeme.text lexeme.token :=
    fun _ => spells_of_mem_lexemes
  obtain ⟨spellings, texts, tokens⟩ := SpellEach.of_lexemes each
  rw [Lexeme.rejoined, ← texts, ← tokens]
  exact lexemes_of_spaced (Spaced.of_spellings spellings) other

theorem parse_rejoined (policy other : Policy) (source : String) (read : List Lexeme)
    (ending : Lexeme) (scanned : items policy source = read.map .ok ++ [.ok ending]) :
    (∃ again ending',
      items other (Lexeme.rejoined read) = again.map .ok ++ [.ok ending'] ∧
        ending'.token = .endOfInput ∧ again.map Lexeme.token = read.map Lexeme.token ∧
        again.map Lexeme.text = read.map Lexeme.text ∧
        Lexeme.rejoined again = Lexeme.rejoined read) ∧
    Alike (items policy source) (items other (Lexeme.rejoined read))
      (program policy source) (program other (Lexeme.rejoined read)) ∧
    Alike (items policy source) (items other (Lexeme.rejoined read))
      (definition policy source) (definition other (Lexeme.rejoined read)) := by
  rw [items_eq] at scanned
  obtain ⟨rfl, ended⟩ := Item.append_inj scanned
  obtain ⟨⟨ending', ended'⟩, texts, tokens⟩ := lexemes_rejoined policy other source
  have finished := Lexeme.kind_eq_endOfInput_iff.mp (kind_of_last _ ended)
  have finished' := Lexeme.kind_eq_endOfInput_iff.mp (kind_of_last _ ended')
  have ends : (last policy source).content =
      (last other (Lexeme.rejoined (lexemes policy source))).content := by
    rw [ended, ended', Item.content, Item.content, finished, finished']
  have contents := Item.contents_congr tokens.symm ends
  refine ⟨⟨_, ending', ?_, finished', tokens, texts, ?_⟩, ?_, ?_⟩
  · rw [items_eq, ended']
  · rw [Lexeme.rejoined, texts]
    rfl
  · rw [items_eq, items_eq, program_eq, program_eq]
    exact Program.machine.judge_alike _ contents
  · rw [items_eq, items_eq, definition_eq, definition_eq]
    exact Machine.judge_alike _ _ contents

-- A name in front of a number, a number that begins and one that ends with a point: each of them is
-- found again, and so is the error, in its new place.
theorem parse_rejoined_points :
    items .skip "x.5$=#c\n1." =
      [⟨.identifier "x", "x", ⟨0, 1, 1⟩⟩, ⟨.number (.ofQuotient 1 2), ".5", ⟨1, 1, 2⟩⟩,
        ⟨.define, "=", ⟨4, 1, 5⟩⟩, ⟨.number (.ofQuotient 1 1), "1.", ⟨8, 2, 1⟩⟩].map .ok ++
          [.ok (.ending ⟨10, 2, 3⟩)] ∧
    program .skip "x.5$=#c\n1." =
      .error (.unexpected .number (.kind .identifier) ⟨8, 2, 1⟩) ∧
    program .reject "x .5 = 1." = .error (.unexpected .number (.kind .identifier) ⟨7, 1, 8⟩) ∧
    Alike (items .skip "x.5$=#c\n1.") (items .reject "x .5 = 1.")
      (program .skip "x.5$=#c\n1.") (program .reject "x .5 = 1.") ∧
    Alike (items .skip "x.5$=#c\n1.") (items .reject "x .5 = 1.")
      (definition .skip "x.5$=#c\n1.") (definition .reject "x .5 = 1.") := by
  have scanned : items .skip "x.5$=#c\n1." =
      [⟨.identifier "x", "x", ⟨0, 1, 1⟩⟩, ⟨.number (.ofQuotient 1 2), ".5", ⟨1, 1, 2⟩⟩,
        ⟨.define, "=", ⟨4, 1, 5⟩⟩, ⟨.number (.ofQuotient 1 1), "1.", ⟨8, 2, 1⟩⟩].map .ok ++
          [.ok (.ending ⟨10, 2, 3⟩)] := by
    decide +kernel
  exact ⟨scanned, by decide +kernel, by decide +kernel,
    (parse_rejoined .skip .reject _ _ _ scanned).2⟩

end Source

end Kaleidoscope
