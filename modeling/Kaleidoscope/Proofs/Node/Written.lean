import Kaleidoscope.Node.Words
import Kaleidoscope.Proofs.Grammar.Fusion
import Kaleidoscope.Proofs.Lexeme.Spaced

/-! Trees in written form.

Parentheses stand only where a tree would be read differently without them. A number may be spelled by
a different literal in every place.

Main statement: the words of a tree spell tokens from which the grammar derives the tree.
-/

set_option autoImplicit false

namespace Kaleidoscope

open Grammar (Derives parameterTokens prototypeTokens)
open Node (grouped separated prototypeWords)

structure IsName (word : String) : Prop where
  begins : word.toList.head?.any Lexeme.isWordStart = true
  goesOn : ∀ char ∈ word.toList, Lexeme.isWordPart char = true
  free : word ∉ Lexeme.reserved.map Prod.fst

/-- Digits and points that spell the number. -/
structure IsLiteral (word : String) (value : Binary64) : Prop where
  parts : ∀ char ∈ word.toList, Lexeme.isNumberPart char = true
  spells : Binary64.ofLiteral? word.toList = some value

-- Characters are run through one by one: there are too many of them to decide for all.
instance (word : String) : Decidable (IsName word) :=
  decidable_of_iff (word.toList.head?.any Lexeme.isWordStart = true ∧
      word.toList.all Lexeme.isWordPart = true ∧ word ∉ Lexeme.reserved.map Prod.fst)
    ⟨fun ⟨begins, goesOn, free⟩ => ⟨begins, List.all_eq_true.mp goesOn, free⟩,
      fun isName => ⟨isName.begins, List.all_eq_true.mpr isName.goesOn, isName.free⟩⟩

instance (word : String) (value : Binary64) : Decidable (IsLiteral word value) :=
  decidable_of_iff (word.toList.all Lexeme.isNumberPart = true ∧
      Binary64.ofLiteral? word.toList = some value)
    ⟨fun ⟨parts, spells⟩ => ⟨List.all_eq_true.mp parts, spells⟩,
      fun literal => ⟨List.all_eq_true.mpr literal.parts, literal.spells⟩⟩

structure Prototype.Named (prototype : Prototype) : Prop where
  name : IsName prototype.name
  parameters : ∀ parameter ∈ prototype.parameters, IsName parameter

instance (prototype : Prototype) : Decidable prototype.Named :=
  decidable_of_iff (IsName prototype.name ∧ ∀ parameter ∈ prototype.parameters, IsName parameter)
    ⟨fun ⟨name, parameters⟩ => ⟨name, parameters⟩, fun named => ⟨named.name, named.parameters⟩⟩

/-- What is written: an expression, or all arguments of a call. -/
inductive Part where
  | expression
  | arguments
  deriving DecidableEq, Repr

/-- The words of an expression, or those of at least one argument. -/
inductive Written : Part → List Node → List String → Prop where
  | number {value : Binary64} {literal : String} :
      IsLiteral literal value → Written .expression [.number value] [literal]
  | identifier {name : String} :
      IsName name → Written .expression [.identifier name] [name]
  | binary {left right : Node} {first second : List String} (op : Operator) :
      Written .expression [left] first → Written .expression [right] second →
      Written .expression [.binary left op right]
        (grouped left.isConditional first ++ [op.text] ++
          grouped (right.isConditional || right.isBinary) second)
  | conditional {condition consequent alternative : Node} {first second third : List String} :
      Written .expression [condition] first → Written .expression [consequent] second →
      Written .expression [alternative] third →
      Written .expression [.conditional condition consequent alternative]
        (["if"] ++ first ++ ["then"] ++ second ++ ["else"] ++ third)
  | emptyCall {callee : String} :
      IsName callee → Written .expression [.call callee []] [callee, "(", ")"]
  | call {callee : String} {arguments : List Node} {words : List String} :
      IsName callee → Written .arguments arguments words →
      Written .expression [.call callee arguments] ([callee, "("] ++ words ++ [")"])
  | last {node : Node} {words : List String} :
      Written .expression [node] words → Written .arguments [node] words
  | further {node : Node} {nodes : List Node} {first second : List String} :
      Written .expression [node] first → Written .arguments nodes second →
      Written .arguments (node :: nodes) (first ++ [","] ++ second)

/-- The words of a definition, a declaration or an expression, which nest in this way only. -/
inductive WrittenForm : Node → List String → Prop where
  | definition {prototype : Prototype} {body : Node} {words : List String} :
      prototype.Named → Written .expression [body] words →
      WrittenForm (.definition prototype body) (["def"] ++ prototypeWords prototype ++ words)
  | declaration {prototype : Prototype} :
      prototype.Named → WrittenForm (.declaration prototype) (["?"] ++ prototypeWords prototype)
  | expression {node : Node} {words : List String} :
      Written .expression [node] words → WrittenForm node words

namespace Node

mutual

/-- Whether the tree is an expression of names and of numbers that the literals spell. -/
def writable (literal : Binary64 → String) : Node → Bool
  | .number value => IsLiteral (literal value) value
  | .identifier name => IsName name
  | .binary left _ right => left.writable literal && right.writable literal
  | .call callee arguments => IsName callee && writableEach literal arguments
  | .conditional condition consequent alternative =>
      condition.writable literal && consequent.writable literal && alternative.writable literal
  | .definition .. | .declaration _ => false

def writableEach (literal : Binary64 → String) : List Node → Bool
  | [] => true
  | node :: rest => node.writable literal && writableEach literal rest

end

variable {literal : Binary64 → String}

mutual

theorem written_words (node : Node) (writable : node.writable literal = true) :
    Written .expression [node] (node.words literal) := by
  cases node with
  | number value => exact .number (by simpa [Node.writable] using writable)
  | identifier name => exact .identifier (by simpa [Node.writable] using writable)
  | binary left op right =>
    simp only [Node.writable, Bool.and_eq_true] at writable
    exact .binary op (written_words left writable.1) (written_words right writable.2)
  | call callee arguments =>
    simp only [Node.writable, Bool.and_eq_true, decide_eq_true_eq] at writable
    by_cases empty : arguments = []
    · subst empty
      exact .emptyCall writable.1
    · exact .call writable.1 (written_wordsEach arguments empty writable.2)
  | conditional condition consequent alternative =>
    simp only [Node.writable, Bool.and_eq_true] at writable
    exact .conditional (written_words condition writable.1.1)
      (written_words consequent writable.1.2) (written_words alternative writable.2)
  | definition | declaration => simp [Node.writable] at writable

theorem written_wordsEach (nodes : List Node) (nonempty : nodes ≠ [])
    (writable : writableEach literal nodes = true) :
    Written .arguments nodes (separated (wordsEach literal nodes)) := by
  cases nodes with
  | nil => exact absurd rfl nonempty
  | cons node rest =>
    simp only [writableEach, Bool.and_eq_true] at writable
    have first := written_words node writable.1
    by_cases empty : rest = []
    · subst empty
      exact .last first
    · have others := written_wordsEach rest empty writable.2
      cases rest with
      | nil => exact absurd rfl empty
      | cons => exact .further first others

end

def writableForm (literal : Binary64 → String) : Node → Bool
  | .definition prototype body => prototype.Named && body.writable literal
  | .declaration prototype => prototype.Named
  | node => node.writable literal

theorem writtenForm_words (node : Node) (writable : node.writableForm literal = true) :
    WrittenForm node (node.words literal) := by
  cases node with
  | definition prototype body =>
    simp only [writableForm, Bool.and_eq_true, decide_eq_true_eq] at writable
    exact .definition writable.1 (written_words body writable.2)
  | declaration prototype => exact .declaration (by simpa [writableForm] using writable)
  | number | identifier | binary | call | conditional =>
    exact .expression (written_words _ writable)

end Node

def SpellEach (words : List String) (tokens : List Token) : Prop :=
  ∃ spellings : List Spelling, spellings.map Spelling.text = words ∧
    spellings.map Spelling.token = tokens

namespace SpellEach

variable {words others : List String} {tokens rest : List Token}

theorem single {word : String} {token : Token} (spells : Spells word token) :
    SpellEach [word] [token] :=
  ⟨[⟨word, token, spells⟩], rfl, rfl⟩

theorem append (first : SpellEach words tokens) (second : SpellEach others rest) :
    SpellEach (words ++ others) (tokens ++ rest) := by
  obtain ⟨spellings, rfl, rfl⟩ := first
  obtain ⟨behind, rfl, rfl⟩ := second
  exact ⟨spellings ++ behind, by simp, by simp⟩

/-- Words and marks that are spelled in one way only. -/
def fixedWords : List (String × Token) :=
  Lexeme.reserved ++ Lexeme.marks.map fun pair => (String.singleton pair.1, pair.2)

theorem fixed {word : String} {token : Token} (member : (word, token) ∈ fixedWords) :
    SpellEach [word] [token] := by
  rcases List.mem_append.mp member with member | member
  · have classes : ∀ pair ∈ Lexeme.reserved, pair.1.toList.head?.any Lexeme.isWordStart = true ∧
        pair.1.toList.all Lexeme.isWordPart = true ∧ Token.ofWord pair.1 = pair.2 := by
      decide +kernel
    obtain ⟨begins, goesOn, same⟩ := classes _ member
    have spells := Spells.word begins (List.all_eq_true.mp goesOn)
    rw [same] at spells
    exact single spells
  · obtain ⟨pair, mark, same⟩ := List.mem_map.mp member
    obtain ⟨rfl, rfl⟩ := Prod.mk.inj same
    exact single (.mark mark)

theorem name {name : String} (isName : IsName name) : SpellEach [name] [.identifier name] := by
  have spells := Spells.word isName.begins isName.goesOn
  have free := isName.free
  simp only [Lexeme.reserved, List.map_cons, List.map_nil, List.mem_cons, List.not_mem_nil,
    or_false, not_or] at free
  have same : Token.ofWord name = .identifier name := by simp [Token.ofWord, free]
  rw [same] at spells
  exact single spells

theorem inParentheses (spelled : SpellEach words tokens) :
    SpellEach (["("] ++ words ++ [")"]) (.openParen :: tokens ++ [.closeParen]) := by
  have opened : SpellEach ["("] [.openParen] := fixed (by decide)
  have closed : SpellEach [")"] [.closeParen] := fixed (by decide)
  exact (opened.append spelled).append closed

theorem between {word : String} {token : Token} (first : SpellEach words tokens)
    (member : (word, token) ∈ fixedWords) (second : SpellEach others rest) :
    SpellEach (words ++ [word] ++ others) (tokens ++ token :: rest) := by
  have joined := (first.append (fixed member)).append second
  rwa [List.append_assoc tokens] at joined

theorem operator_mem_fixedWords (op : Operator) : (op.text, .operator op) ∈ fixedWords := by
  cases op <;> decide

theorem parameters {names : List String} (named : ∀ name ∈ names, IsName name) :
    SpellEach (separated (names.map ([·]))) (parameterTokens names) := by
  induction names with
  | nil => exact ⟨[], rfl, rfl⟩
  | cons first rest ih =>
    obtain ⟨isName, named⟩ := List.forall_mem_cons.mp named
    cases rest with
    | nil => exact name isName
    | cons second rest => exact (name isName).between (by decide) (ih named)

theorem prototype {prototype : Prototype} (named : prototype.Named) :
    SpellEach (prototypeWords prototype) (prototypeTokens prototype) :=
  (name named.name).append (parameters named.parameters).inParentheses

end SpellEach

/-- The narrowest symbol from which an expression is derived as it is written. -/
def Node.symbol : Node → Grammar.Symbol
  | .conditional .. => .expression
  | .binary .. => .term
  | _ => .factor

namespace Grammar

variable {node : Node} {tokens : List Token}

theorem Derives.of_symbol (derivation : Derives node.symbol tokens [node]) :
    Derives .expression tokens [node] := by
  cases node with
  | conditional => exact derivation
  | binary => exact .plain derivation
  | number | identifier | call | definition | declaration => exact .plain (.single derivation)

-- On the left of an operator only a conditional needs parentheses.
theorem exists_left_operand {words : List String} (spelled : SpellEach words tokens)
    (derivation : Derives node.symbol tokens [node]) :
    ∃ grouped, SpellEach (Node.grouped node.isConditional words) grouped ∧
      Derives .term grouped [node] := by
  cases node with
  | conditional => exact ⟨_, spelled.inParentheses, .single (.group derivation.of_symbol)⟩
  | binary => exact ⟨tokens, spelled, derivation⟩
  | number | identifier | call | definition | declaration =>
    exact ⟨tokens, spelled, .single derivation⟩

theorem exists_right_operand {words : List String} (spelled : SpellEach words tokens)
    (derivation : Derives node.symbol tokens [node]) :
    ∃ grouped, SpellEach (Node.grouped (node.isConditional || node.isBinary) words) grouped ∧
      Derives .factor grouped [node] := by
  cases node with
  | conditional | binary => exact ⟨_, spelled.inParentheses, .group derivation.of_symbol⟩
  | number | identifier | call | definition | declaration => exact ⟨tokens, spelled, derivation⟩

end Grammar

/-- What the grammar derives for a written part. -/
def Part.Derived : Part → List Token → List Node → Prop
  | .expression, tokens, [node] => Derives node.symbol tokens [node]
  | .expression, _, _ => False
  | .arguments, tokens, nodes => Derives .arguments tokens nodes

theorem Written.exists_tokens {part : Part} {nodes : List Node} {words : List String}
    (written : Written part nodes words) :
    ∃ tokens, SpellEach words tokens ∧ part.Derived tokens nodes := by
  induction written with
  | @number value literal spelled =>
    exact ⟨_, .single (.number spelled.parts spelled.spells), .number value⟩
  | @identifier name isName => exact ⟨_, .name isName, .identifier name⟩
  | @binary left right first second op _ _ ihLeft ihRight =>
    obtain ⟨_, spelled, derivation⟩ := ihLeft
    obtain ⟨before, leftSpelled, leftDerived⟩ := Grammar.exists_left_operand spelled derivation
    obtain ⟨_, spelled, derivation⟩ := ihRight
    obtain ⟨behind, rightSpelled, rightDerived⟩ := Grammar.exists_right_operand spelled derivation
    exact ⟨_, leftSpelled.between (SpellEach.operator_mem_fixedWords op) rightSpelled,
      .continued op leftDerived rightDerived⟩
  | conditional _ _ _ ihCondition ihConsequent ihAlternative =>
    obtain ⟨first, spelled, derivation⟩ := ihCondition
    obtain ⟨second, spelled', derivation'⟩ := ihConsequent
    obtain ⟨third, spelled'', derivation''⟩ := ihAlternative
    have word : SpellEach ["if"] [.ifWord] := .fixed (by decide)
    exact ⟨_, ((word.append spelled).between (by decide) spelled').between (by decide) spelled'',
      .conditional derivation.of_symbol derivation'.of_symbol derivation''.of_symbol⟩
  | @emptyCall callee isName =>
    have opened : SpellEach ["("] [.openParen] := .fixed (by decide)
    have closed : SpellEach [")"] [.closeParen] := .fixed (by decide)
    exact ⟨_, ((SpellEach.name isName).append opened).append closed, .emptyCall callee⟩
  | @call callee arguments words isName _ ih =>
    obtain ⟨tokens, spelled, derivation⟩ := ih
    exact ⟨_, (SpellEach.name isName).append spelled.inParentheses, .call callee derivation⟩
  | last _ ih =>
    obtain ⟨tokens, spelled, derivation⟩ := ih
    exact ⟨tokens, spelled, .last derivation.of_symbol⟩
  | further _ _ ih ihOthers =>
    obtain ⟨first, spelled, derivation⟩ := ih
    obtain ⟨second, spelled', derivation'⟩ := ihOthers
    exact ⟨_, spelled.between (by decide) spelled', .further derivation.of_symbol derivation'⟩

theorem WrittenForm.exists_tokens {node : Node} {words : List String}
    (written : WrittenForm node words) :
    ∃ tokens, SpellEach words tokens ∧ Grammar.Form tokens node := by
  cases written with
  | definition named body =>
    obtain ⟨tokens, spelled, derivation⟩ := body.exists_tokens
    have word : SpellEach ["def"] [.define] := .fixed (by decide)
    exact ⟨_, (word.append (.prototype named)).append spelled,
      .definition _ derivation.of_symbol⟩
  | declaration named =>
    have mark : SpellEach ["?"] [.declare] := .fixed (by decide)
    exact ⟨_, mark.append (.prototype named), .declaration _⟩
  | expression written =>
    obtain ⟨tokens, spelled, derivation⟩ := written.exists_tokens
    exact ⟨tokens, spelled, .expression derivation.of_symbol⟩

end Kaleidoscope
