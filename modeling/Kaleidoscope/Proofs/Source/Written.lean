import Kaleidoscope.Proofs.Node.Written
import Kaleidoscope.Proofs.Source.Accepted

/-! Written programs.

Main statements: forms that are written on lines of their own are read as the trees they were written
for, unless a name at the end of one form would call what the next one begins with; so the parser
undoes the printer.
-/

set_option autoImplicit false

namespace Kaleidoscope

theorem Spells.isName {text : String} {token : Token} (spells : Spells text token)
    (named : token.kind = .identifier) : IsName text := by
  cases spells with
  | word begins goesOn =>
    refine ⟨begins, goesOn, fun member => ?_⟩
    simp only [Lexeme.reserved, List.map_cons, List.map_nil, List.mem_cons, List.not_mem_nil,
      or_false] at member
    rcases member with rfl | rfl | rfl | rfl <;> simp [Token.ofWord, Token.kind] at named
  | number => simp [Token.kind] at named
  | mark member =>
    have other : ∀ pair ∈ Lexeme.marks, pair.2.kind ≠ .identifier := by decide
    exact absurd named (other _ member)

theorem Spells.text_eq_paren {text : String} {token : Token} (spells : Spells text token)
    (opened : token.kind = .openParen) : text = "(" := by
  cases spells with
  | word =>
    unfold Token.ofWord at opened
    repeat' split at opened
    all_goals simp [Token.kind] at opened
  | number => simp [Token.kind] at opened
  | mark member =>
    have only : ∀ pair ∈ Lexeme.marks, pair.2.kind = .openParen →
        String.singleton pair.1 = "(" := by decide
    exact only _ member opened

/-- The name at the end of the first form is not called by the beginning of the second one. -/
def KeepApart (first second : List String) : Prop :=
  ∀ name ∈ first.getLast?, IsName name → second.head? ≠ some "("

instance (first second : List String) : Decidable (KeepApart first second) :=
  inferInstanceAs (Decidable (∀ name ∈ first.getLast?, IsName name → second.head? ≠ some "("))

theorem KeepApart.fuses_eq {first second : List Spelling}
    (apart : KeepApart (first.map Spelling.text) (second.map Spelling.text)) :
    Grammar.fuses (first.map Spelling.token) (second.map Spelling.token) = false := by
  rw [← Bool.not_eq_true, Grammar.fuses_map_iff]
  rintro ⟨name, next, ends, begins, named, opened⟩
  refine apart name.text ?_ (name.spells.isName named) ?_
  · rw [List.getLast?_map, ends]
    rfl
  · rw [List.head?_map, begins, ← next.spells.text_eq_paren opened]
    rfl

theorem exists_spellings {nodes : List Node} {forms : List (List String)}
    (written : List.Forall₂ WrittenForm nodes forms) :
    ∃ spellings : List (List Spelling), forms = spellings.map (·.map Spelling.text) ∧
      Grammar.Program (spellings.map (·.map Spelling.token)) nodes := by
  induction written with
  | nil => exact ⟨[], rfl, .nil⟩
  | cons form _ ih =>
    obtain ⟨tokens, ⟨spelling, rfl, rfl⟩, form⟩ := form.exists_tokens
    obtain ⟨spellings, rfl, program⟩ := ih
    exact ⟨spelling :: spellings, rfl, .cons form program⟩

namespace Source

theorem program_of_spellings {spellings : List (List Spelling)} {nodes : List Node}
    (forms : Grammar.Program (spellings.map (·.map Spelling.token)) nodes)
    (apart : (spellings.map (·.map Spelling.text)).IsChain KeepApart) (policy : Policy) :
    program policy ("\n".intercalate (spellings.map (" ".intercalate <| ·.map Spelling.text))) =
      .ok nodes := by
  have white : Unicode.isWhiteSpace '\n' = true := by decide +kernel
  have spaced := Spaced.intercalate white Spaced.of_spellings spellings
  rw [List.flatMap_id'] at spaced
  obtain ⟨ended, -, tokens⟩ := lexemes_of_spaced spaced policy
  refine program_accepts_iff.mpr ⟨ended, Program.accepts_iff.mpr ⟨_, ?_, forms, ?_⟩⟩
  · exact (tokens.trans List.map_flatten).symm
  · rw [Grammar.fusions_eq_zero_iff, List.isChain_map]
    rw [List.isChain_map] at apart
    exact apart.imp fun _ _ joint => joint.fuses_eq

theorem program_written (policy : Policy) (nodes : List Node) (forms : List (List String))
    (written : List.Forall₂ WrittenForm nodes forms) (apart : forms.IsChain KeepApart) :
    program policy ("\n".intercalate (forms.map (" ".intercalate ·))) = .ok nodes := by
  obtain ⟨spellings, rfl, reading⟩ := exists_spellings written
  rw [List.map_map]
  exact program_of_spellings reading apart policy

-- One number is spelled in three ways, and each operand has the parentheses it needs.
theorem program_written_nested :
    program .reject
        "def f ( x ) ( if x then 1 else 1.0 ) + ( x * 01. )\n? g ( a , b )\nf ( if x then y else 1 )" =
      .ok
        [.definition ⟨"f", ["x"]⟩
            (.binary
              (.conditional (.identifier "x") (.number (.ofQuotient 1 1)) (.number (.ofQuotient 1 1)))
              .plus (.binary (.identifier "x") .times (.number (.ofQuotient 1 1)))),
          .declaration ⟨"g", ["a", "b"]⟩,
          .call "f"
            [.conditional (.identifier "x") (.identifier "y") (.number (.ofQuotient 1 1))]] := by
  have name : IsName "x" := by decide +kernel
  have body := Written.binary .plus
    (.conditional (.identifier name)
      (.number (show IsLiteral "1" (.ofQuotient 1 1) by decide +kernel))
      (.number (show IsLiteral "1.0" (.ofQuotient 1 1) by decide +kernel)))
    (.binary .times (.identifier name)
      (.number (show IsLiteral "01." (.ofQuotient 1 1) by decide +kernel)))
  have named : Prototype.Named ⟨"f", ["x"]⟩ := by decide +kernel
  have named' : Prototype.Named ⟨"g", ["a", "b"]⟩ := by decide +kernel
  have call := Node.writtenForm_words
    (.call "f" [.conditional (.identifier "x") (.identifier "y") (.number (.ofQuotient 1 1))])
    (show Node.writableForm (fun _ => "1") _ = true by decide +kernel)
  have written := List.Forall₂.cons (WrittenForm.definition named body)
    (.cons (.declaration named') (.cons call .nil))
  have parsed := program_written .reject _ _ written (by decide +kernel)
  -- The words are known, so the text they make up can be computed.
  exact parsed

theorem program_sourceText (policy : Policy) (literal : Binary64 → String) (nodes : List Node)
    (writable : ∀ node ∈ nodes, node.writableForm literal = true)
    (apart : (nodes.map (Node.words literal)).IsChain KeepApart) :
    program policy ("\n".intercalate (nodes.map (Node.sourceText literal))) = .ok nodes := by
  have written : List.Forall₂ WrittenForm nodes (nodes.map (Node.words literal)) := by
    rw [List.forall₂_map_right_iff, List.forall₂_same]
    exact fun node member => Node.writtenForm_words node (writable node member)
  obtain ⟨spellings, same, reading⟩ := exists_spellings written
  have source : nodes.map (Node.sourceText literal) =
      spellings.map (" ".intercalate <| ·.map Spelling.text) := by
    have lines := congrArg (List.map (" ".intercalate ·)) same
    rwa [List.map_map, List.map_map] at lines
  rw [source]
  rw [same] at apart
  exact program_of_spellings reading apart policy

end Source

end Kaleidoscope
