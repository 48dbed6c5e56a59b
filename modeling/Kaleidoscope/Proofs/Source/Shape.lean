import Kaleidoscope.Proofs.Grammar.Drawn
import Kaleidoscope.Proofs.Source.Contents
import Kaleidoscope.Proofs.Source.Leading
import Kaleidoscope.Proofs.Source.Written

/-! The shape of trees that are read.

What stands in a tree has been carried by tokens, and tokens have been spelled in the source.

Main statement: whatever is read, only the root of a tree is a definition or a declaration, all names
stand in the source and could be read as names again, and all numbers have a place among the numbers that
are not negative.
-/

set_option autoImplicit false

namespace Kaleidoscope

open Grammar (DrawnFrom DrawnExpression)

theorem Binary64.ofQuotient_isNaN (num den : Nat) : (ofQuotient num den).isNaN = false :=
  decide_eq_false (Nat.not_lt.mpr (Nat.min_le_left ..))

-- No literal spells a sign.
theorem Binary64.exists_ofLiteral? {literal : List Char} {value : Binary64}
    (spelled : ofLiteral? literal = some value) : ∃ num den, value = ofQuotient num den := by
  simp only [ofLiteral?] at spelled
  split at spelled
  · split at spelled
    · simp at spelled
    · exact ⟨_, _, (Option.some.inj spelled).symm⟩
  · split at spelled
    · exact ⟨_, _, (Option.some.inj spelled).symm⟩
    · simp at spelled

theorem Spells.number_sound {text : String} {value : Binary64} (spells : Spells text (.number value)) :
    value.isNaN = false ∧ value.negative = false := by
  generalize same : Token.number value = token at spells
  cases spells with
  | word begun parts =>
    have other : (Token.ofWord text).kind ≠ .number := by
      unfold Token.ofWord
      repeat' split
      all_goals simp [Token.kind]
    exact absurd (same ▸ rfl) other
  | number parts spelled =>
    obtain rfl := Token.number.inj same
    obtain ⟨num, den, rfl⟩ := Binary64.exists_ofLiteral? spelled
    exact ⟨Binary64.ofQuotient_isNaN num den, rfl⟩
  | mark member =>
    have other : ∀ pair ∈ Lexeme.marks, pair.2.kind ≠ .number := by decide
    exact absurd (same ▸ rfl) (other _ member)

/-- What has been read from a source: definitions and declarations stand in nothing else, names stand in
the source and are names, numbers are numbers and have no sign. -/
structure Node.ReadFrom (source : String) (node : Node) : Prop where
  below : ∀ child ∈ node.children, child.Everywhere fun inner => inner.isExpression = true
  names : node.Everywhere fun inner =>
    ∀ name ∈ inner.names, IsName name ∧ name.toList <:+: source.toList
  numbers : node.Everywhere fun inner =>
    ∀ value ∈ inner.numbers, value.isNaN = false ∧ value.negative = false

theorem Node.ReadFrom.agrees_self {source : String} {node : Node} (read : node.ReadFrom source) :
    agrees node node = true :=
  Node.agrees_self (read.numbers.mono fun _ sound value member => (sound value member).1)

namespace Source

variable {policy : Policy} {source : String}

theorem spells_of_mem {lexeme : Lexeme} (member : .ok lexeme ∈ items policy source) :
    lexeme.token = .endOfInput ∨
      Spells lexeme.text lexeme.token ∧ lexeme.text.toList <:+: source.toList := by
  rcases stands_of_mem member with ending | ⟨before, segment, rest, whole, lawful, yielded⟩
  · obtain rfl := Except.ok.inj ending
    exact .inl rfl
  · obtain ⟨spells, same⟩ := lawful.spells yielded
    refine .inr ⟨spells, before, rest, ?_⟩
    rw [same, whole, List.append_assoc]

/-- Lexemes of the source have the tokens. -/
def Holds (policy : Policy) (source : String) (tokens : List Token) : Prop :=
  ∀ token ∈ tokens, ∃ lexeme, .ok lexeme ∈ items policy source ∧ lexeme.token = token

theorem Holds.spelled {tokens : List Token} (holds : Holds policy source tokens) :
    (∀ name, .identifier name ∈ tokens → IsName name ∧ name.toList <:+: source.toList) ∧
      ∀ value, .number value ∈ tokens → value.isNaN = false ∧ value.negative = false := by
  constructor
  · intro name member
    obtain ⟨lexeme, found, token⟩ := holds _ member
    rcases spells_of_mem found with ended | ⟨spells, stands⟩
    · simp [token] at ended
    · have isName := spells.isName (token ▸ rfl)
      rw [text_of_identifier found token] at isName stands
      exact ⟨isName, stands⟩
  · intro value member
    obtain ⟨lexeme, found, token⟩ := holds _ member
    rcases spells_of_mem found with ended | ⟨spells, -⟩
    · simp [token] at ended
    · rw [token] at spells
      exact spells.number_sound

theorem Holds.readFrom {tokens : List Token} {node : Node} (holds : Holds policy source tokens)
    (form : Grammar.Form tokens node) : node.ReadFrom source := by
  obtain ⟨here, below⟩ := form.drawn
  obtain ⟨names, numbers⟩ := holds.spelled
  have drawn : node.Everywhere (DrawnFrom tokens) :=
    Node.everywhere_iff.mpr ⟨here, fun child member =>
      (below child member).mono fun _ inner => inner.toDrawnFrom⟩
  exact {
    below := fun child member => (below child member).mono fun _ inner => inner.expression
    names := drawn.mono fun _ inner name member => names name (inner.names name member)
    numbers := drawn.mono fun _ inner value member => numbers value (inner.numbers value member) }

theorem readFrom_of_program {nodes : List Node} (read : program policy source = .ok nodes)
    {node : Node} (member : node ∈ nodes) : node.ReadFrom source := by
  obtain ⟨-, accepted⟩ := program_accepts_iff.mp read
  obtain ⟨forms, whole, derived, -⟩ := Program.accepts_iff.mp accepted
  obtain ⟨tokens, within, form⟩ := derived.exists_form member
  have holds : Holds policy source tokens := by
    intro token inside
    have inside := within inside
    rw [whole] at inside
    obtain ⟨lexeme, found, same⟩ := List.mem_map.mp inside
    exact ⟨lexeme, by rw [items_eq]; simp [found], same⟩
  exact holds.readFrom form

theorem readFrom_of_definition {node : Node} (read : definition policy source = .ok node) :
    node.ReadFrom source ∧ ∃ prototype body, node = .definition prototype body := by
  obtain ⟨before, next, leading⟩ := definition_eq_ok_iff_leading.mp read
  obtain ⟨rest, begins⟩ := leading.begins
  obtain ⟨prototype, tokens, body, same, derivation, rfl⟩ := leading.defines
  have holds : Holds policy source (before.map Lexeme.token) := by
    intro token inside
    obtain ⟨lexeme, found, same⟩ := List.mem_map.mp inside
    exact ⟨lexeme, by rw [begins]; simp [found], same⟩
  rw [same] at holds
  exact ⟨holds.readFrom (.definition prototype derivation), prototype, body, rfl⟩

theorem program_infinity (policy : Policy) :
    ∃ source value, program policy source = .ok [.number value] ∧ value.negative = false ∧
      value.magnitude = Number.infinity := by
  have parts : ∀ char ∈ List.replicate 310 '9', Lexeme.isNumberPart char = true := by
    intro char member
    obtain rfl := List.eq_of_mem_replicate member
    decide
  have spelled : Binary64.ofLiteral? (List.replicate 310 '9') =
      some (.ofQuotient (10 ^ 310 - 1) 1) := by
    decide +kernel
  have spells : Spells (String.ofList (List.replicate 310 '9')) _ :=
    .number (by simpa only [String.toList_ofList] using parts)
      (by simpa only [String.toList_ofList] using spelled)
  let spellings : List (List Spelling) := [[⟨_, _, spells⟩]]
  have derived : Grammar.Program (spellings.map (·.map Spelling.token)) _ :=
    .cons (.expression (.plain (.single (.number _)))) .nil
  exact ⟨_, _, program_of_spellings derived (.singleton _) policy, rfl, by decide +kernel⟩

theorem parse_readFrom (policy : Policy) (source : String) :
    (∀ nodes, program policy source = .ok nodes →
      ∀ node ∈ nodes, node.ReadFrom source ∧ agrees node node = true) ∧
    (∀ node, definition policy source = .ok node →
      (∃ prototype body, node = .definition prototype body) ∧ node.ReadFrom source ∧
        agrees node node = true) ∧
    ∃ other value, program policy other = .ok [.number value] ∧ value.negative = false ∧
      value.magnitude = Number.infinity := by
  refine ⟨fun nodes read node member => ?_, fun node read => ?_, program_infinity policy⟩
  · have read := readFrom_of_program read member
    exact ⟨read, read.agrees_self⟩
  · obtain ⟨read, defined⟩ := readFrom_of_definition read
    exact ⟨defined, read, read.agrees_self⟩

-- The number stands in a call in a branch of the body.
theorem parse_readFrom_nested :
    ∃ node, definition .reject "def f(x) if x then g(x, 1.5) else y" = .ok node ∧
      node.ReadFrom "def f(x) if x then g(x, 1.5) else y" ∧ agrees node node = true ∧
      (Node.number (.ofQuotient 3 2)).Within node := by
  have read : definition .reject "def f(x) if x then g(x, 1.5) else y" =
      .ok (.definition ⟨"f", ["x"]⟩ (.conditional (.identifier "x")
        (.call "g" [.identifier "x", .number (.ofQuotient 3 2)]) (.identifier "y"))) := by
    decide +kernel
  obtain ⟨-, shape, agreed⟩ := (parse_readFrom .reject _).2.1 _ read
  exact ⟨_, read, shape, agreed,
    .child (.head _) (.child (.tail _ (.head _)) (.child (.tail _ (.head _)) (.self _)))⟩

end Source

end Kaleidoscope
