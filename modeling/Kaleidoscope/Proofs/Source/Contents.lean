import Kaleidoscope.Proofs.Lexeme.Decomposition
import Kaleidoscope.Proofs.Lexeme.Movement

/-! What a parser sees of a text.

A machine is given the tokens of the lexemes and nothing else of them, so it does the same with two
texts that differ only in their layout or in the spelling of their tokens.

Main statement: two texts with the same contents give the same trees, or the same is wrong with the
items that have the same index.
-/

set_option autoImplicit false

namespace Kaleidoscope

def LexicalError.unplaced : LexicalError → LexicalError
  | .unknownCharacter char _ => .unknownCharacter char .start
  | .malformedNumber text _ => .malformedNumber text .start

/-- The error with its place forgotten. -/
def ParseError.unplaced : ParseError → ParseError
  | .unexpected found expected _ => .unexpected found expected .start
  | .lexical error => .lexical error.unplaced

theorem Token.eq_of_ofWord {word name : String} (named : ofWord word = .identifier name) :
    word = name := by
  unfold ofWord at named
  repeat' split at named
  all_goals simp_all

namespace Item

/-- The item without its place and its spelling; an error has no other content than what it shows. -/
def content : Item → Except LexicalError Token
  | .ok lexeme => .ok lexeme.token
  | .error error => .error error.unplaced

@[simp] theorem content_ok (lexeme : Lexeme) : content (.ok lexeme) = .ok lexeme.token := rfl

/-- What is said where the item does not meet an expectation. -/
def complaint (expectation : Expectation) : Item → ParseError
  | .ok lexeme => Parser.refuse lexeme expectation
  | .error error => .lexical error

theorem content_cases {item other : Item} (same : item.content = other.content) :
    (∃ lexeme lexeme' : Lexeme, item = .ok lexeme ∧ other = .ok lexeme' ∧
      lexeme.token = lexeme'.token) ∨
    ∃ error error' : LexicalError, item = .error error ∧ other = .error error' ∧
      error.unplaced = error'.unplaced := by
  cases item with
  | ok lexeme =>
    cases other with
    | ok lexeme' => exact .inl ⟨lexeme, lexeme', rfl, rfl, Except.ok.inj same⟩
    | error => simp [content] at same
  | error error =>
    cases other with
    | ok => simp [content] at same
    | error error' => exact .inr ⟨error, error', rfl, rfl, Except.error.inj same⟩

theorem position_complaint (expectation : Expectation) (item : Item) :
    (item.complaint expectation).position = item.position := by
  cases item <;> rfl

theorem unplaced_complaint (expectation : Expectation) {item other : Item}
    (same : item.content = other.content) :
    (item.complaint expectation).unplaced = (other.complaint expectation).unplaced := by
  rcases content_cases same with ⟨lexeme, lexeme', rfl, rfl, token⟩ | ⟨error, error', rfl, rfl, unplaced⟩
  · simp [complaint, Parser.refuse, ParseError.unplaced, Lexeme.kind, token]
  · exact congrArg ParseError.lexical unplaced

theorem contents_eq (lexemes : List Lexeme) (last : Item) :
    (lexemes.map Except.ok ++ [last]).map content =
      (lexemes.map Lexeme.token).map Except.ok ++ [last.content] := by
  simp [Function.comp_def]

theorem contents_inj {lexemes others : List Lexeme} {last other : Item}
    (same : (lexemes.map Except.ok ++ [last]).map content =
      (others.map Except.ok ++ [other]).map content) :
    lexemes.map Lexeme.token = others.map Lexeme.token ∧ last.content = other.content := by
  rw [contents_eq, contents_eq] at same
  obtain ⟨tokens, ends⟩ := List.append_inj' same rfl
  have injective : Function.Injective (Except.ok : Token → Except LexicalError Token) :=
    fun _ _ => Except.ok.inj
  exact ⟨List.map_injective_iff.mpr injective tokens, List.head_eq_of_cons_eq ends⟩

theorem contents_congr {lexemes others : List Lexeme} {last other : Item}
    (tokens : lexemes.map Lexeme.token = others.map Lexeme.token)
    (ends : last.content = other.content) :
    (lexemes.map Except.ok ++ [last]).map content =
      (others.map Except.ok ++ [other]).map content := by
  rw [contents_eq, contents_eq, tokens, ends]

end Item

namespace Machine

variable {State Result : Type} {machine : Machine State Result}

theorem stop_cases {lexeme lexeme' : Lexeme} (token : lexeme.token = lexeme'.token) (state : State) :
    (∃ result, (machine.stop state lexeme.kind).mapError (Parser.refuse lexeme) = .ok result ∧
      (machine.stop state lexeme'.kind).mapError (Parser.refuse lexeme') = .ok result) ∨
    ∃ expectation,
      (machine.stop state lexeme.kind).mapError (Parser.refuse lexeme) =
        .error (Item.complaint expectation (.ok lexeme)) ∧
      (machine.stop state lexeme'.kind).mapError (Parser.refuse lexeme') =
        .error (Item.complaint expectation (.ok lexeme')) := by
  have kind : lexeme'.kind = lexeme.kind := congrArg Token.kind token.symm
  rw [kind]
  cases machine.stop state lexeme.kind with
  | ok result => exact .inl ⟨result, rfl, rfl⟩
  | error expectation => exact .inr ⟨expectation, rfl, rfl⟩

theorem judge_cases {lexemes others : List Lexeme} {last other : Item}
    (same : lexemes.map Lexeme.token = others.map Lexeme.token)
    (ends : last.content = other.content) (state : State) :
    (∃ result, machine.judge last state lexemes = .ok result ∧
      machine.judge other state others = .ok result) ∨
    ∃ (index : Nat) (item item' : Item) (expectation : Expectation),
      (lexemes.map Except.ok ++ [last])[index]? = some item ∧
      (others.map Except.ok ++ [other])[index]? = some item' ∧ item.content = item'.content ∧
      machine.judge last state lexemes = .error (item.complaint expectation) ∧
      machine.judge other state others = .error (item'.complaint expectation) := by
  -- As long as the tokens are the same, both runs are in the same state.
  induction lexemes generalizing others state with
  | nil =>
    obtain rfl : others = [] := List.map_eq_nil_iff.mp same.symm
    rcases Item.content_cases ends with ⟨lexeme, lexeme', rfl, rfl, token⟩ | ⟨error, error', rfl, rfl, -⟩
    · rcases machine.stop_cases token state with agreed | ⟨expectation, refused, refused'⟩
      · exact .inl agreed
      · exact .inr ⟨0, _, _, expectation, rfl, rfl, ends, refused, refused'⟩
    · -- An error speaks for itself, whatever has been expected.
      exact .inr ⟨0, _, _, .factor, rfl, rfl, ends, rfl, rfl⟩
  | cons lexeme rest ih =>
    cases others with
    | nil => simp at same
    | cons lexeme' rest' =>
      obtain ⟨token, same⟩ := List.cons.inj same
      simp only [judge, ← token]
      cases machine.shift state lexeme.token with
      | some next =>
        rcases ih same next with agreed | ⟨index, item, item', expectation, found, found', refused⟩
        · exact .inl agreed
        · exact .inr ⟨index + 1, item, item', expectation, found, found', refused⟩
      | none =>
        rcases machine.stop_cases token state with agreed | ⟨expectation, refused, refused'⟩
        · exact .inl agreed
        · have content : Item.content (.ok lexeme) = Item.content (.ok lexeme') :=
            congrArg Except.ok token
          exact .inr ⟨0, _, _, expectation, rfl, rfl, content, refused, refused'⟩

end Machine

/-- The same trees, or the same error but for its place, which in each text is that of the item with
the same index. -/
def Alike {α : Type} (items others : List Item) :
    Except ParseError α → Except ParseError α → Prop
  | .ok result, .ok result' => result = result'
  | .error error, .error error' => error.unplaced = error'.unplaced ∧
      ∃ index : Nat, items[index]?.map Item.position = some error.position ∧
        others[index]?.map Item.position = some error'.position
  | .ok _, .error _ | .error _, .ok _ => False

theorem Machine.judge_alike {State Result : Type} (machine : Machine State Result) (state : State)
    {lexemes others : List Lexeme} {last other : Item}
    (same : (lexemes.map Except.ok ++ [last]).map Item.content =
      (others.map Except.ok ++ [other]).map Item.content) :
    Alike (lexemes.map .ok ++ [last]) (others.map .ok ++ [other])
      (machine.judge last state lexemes) (machine.judge other state others) := by
  obtain ⟨tokens, ends⟩ := Item.contents_inj same
  rcases machine.judge_cases tokens ends state with ⟨result, judged, judged'⟩ |
    ⟨index, item, item', expectation, found, found', content, judged, judged'⟩
  · rw [judged, judged']
    exact rfl
  · rw [judged, judged']
    refine ⟨Item.unplaced_complaint expectation content, index, ?_, ?_⟩
    · rw [found, Option.map_some, Item.position_complaint]
    · rw [found', Option.map_some, Item.position_complaint]

namespace Source

theorem text_of_identifier {policy : Policy} {source : String} {lexeme : Lexeme} {name : String}
    (member : .ok lexeme ∈ items policy source) (named : lexeme.token = .identifier name) :
    lexeme.text = name := by
  rcases stands_of_mem member with ending | ⟨before, segment, rest, -, lawful, yielded⟩
  · obtain rfl := Except.ok.inj ending
    simp [Lexeme.ending] at named
  · cases segment with
    | blank | comment | skipped => simp [Segment.item?] at yielded
    | malformed | stray => simp [Segment.item?] at yielded
    | number =>
      obtain rfl := Except.ok.inj (Option.some.inj yielded)
      simp at named
    | mark char token =>
      obtain rfl := Except.ok.inj (Option.some.inj yielded)
      obtain rfl : token = .identifier name := named
      have other : ∀ pair ∈ Lexeme.marks, pair.2.kind ≠ .identifier := by decide
      exact absurd rfl (other _ lawful)
    | word run =>
      obtain rfl := Except.ok.inj (Option.some.inj yielded)
      rw [← Lexeme.ofWord_eq] at named
      exact Token.eq_of_ofWord named

theorem parse_of_contents (policy policy' : Policy) (source source' : String)
    (same : (items policy source).map Item.content = (items policy' source').map Item.content) :
    Alike (items policy source) (items policy' source')
      (program policy source) (program policy' source') ∧
    Alike (items policy source) (items policy' source')
      (definition policy source) (definition policy' source') ∧
    ∀ lexeme name, .ok lexeme ∈ items policy source ++ items policy' source' →
      lexeme.token = .identifier name → lexeme.text = name := by
  refine ⟨?_, ?_, fun lexeme name member named => ?_⟩
  · rw [items_eq, items_eq] at same ⊢
    rw [program_eq, program_eq]
    exact Program.machine.judge_alike _ same
  · rw [items_eq, items_eq] at same ⊢
    rw [definition_eq, definition_eq]
    exact Machine.judge_alike _ _ same
  · rcases List.mem_append.mp member with member | member
    · exact text_of_identifier member named
    · exact text_of_identifier member named

-- Comments, blanks, skipped characters and other spellings make no difference to a program that
-- fails behind its first definition, but for the place where it does.
theorem parse_of_contents_respelled :
    (items .reject "def f(x) x + 1.0 )").map Item.content =
      (items .skip "= f(x) # c\n$ x+01.\n)").map Item.content ∧
    program .reject "def f(x) x + 1.0 )" = .error (.unexpected .closeParen .factor ⟨17, 1, 18⟩) ∧
    program .skip "= f(x) # c\n$ x+01.\n)" = .error (.unexpected .closeParen .factor ⟨19, 3, 1⟩) ∧
    Alike (items .reject "def f(x) x + 1.0 )") (items .skip "= f(x) # c\n$ x+01.\n)")
      (program .reject "def f(x) x + 1.0 )") (program .skip "= f(x) # c\n$ x+01.\n)") ∧
    definition .reject "def f(x) x + 1.0 )" = definition .skip "= f(x) # c\n$ x+01.\n)" := by
  have same : (items .reject "def f(x) x + 1.0 )").map Item.content =
      (items .skip "= f(x) # c\n$ x+01.\n)").map Item.content := by decide +kernel
  exact ⟨same, by decide +kernel, by decide +kernel, (parse_of_contents _ _ _ _ same).1,
    by decide +kernel⟩

end Source

end Kaleidoscope
