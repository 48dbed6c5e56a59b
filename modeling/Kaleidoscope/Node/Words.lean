import Kaleidoscope.Node

/-! Trees written as source text again.

Only what would otherwise be read differently stands in parentheses: a conditional beside an
operator, and an operation to the right of one.
-/

set_option autoImplicit false

namespace Kaleidoscope.Node

def isConditional : Node → Bool
  | .conditional .. => true
  | _ => false

def isBinary : Node → Bool
  | .binary .. => true
  | _ => false

def grouped (needed : Bool) (words : List String) : List String :=
  if needed then ["("] ++ words ++ [")"] else words

def separated : List (List String) → List String
  | [] => []
  | [words] => words
  | words :: rest => words ++ [","] ++ separated rest

def prototypeWords (prototype : Prototype) : List String :=
  [prototype.name, "("] ++ separated (prototype.parameters.map ([·])) ++ [")"]

mutual

/-- The lexemes of a tree, with the given spelling of numbers. -/
def words (literal : Binary64 → String) : Node → List String
  | .number value => [literal value]
  | .identifier name => [name]
  | .binary left op right =>
      grouped left.isConditional (left.words literal) ++ [op.text] ++
        grouped (right.isConditional || right.isBinary) (right.words literal)
  | .call callee arguments => [callee, "("] ++ separated (wordsEach literal arguments) ++ [")"]
  | .conditional condition consequent alternative =>
      ["if"] ++ condition.words literal ++ ["then"] ++ consequent.words literal ++ ["else"] ++
        alternative.words literal
  | .definition prototype body => ["def"] ++ prototypeWords prototype ++ body.words literal
  | .declaration prototype => ["?"] ++ prototypeWords prototype

def wordsEach (literal : Binary64 → String) : List Node → List (List String)
  | [] => []
  | node :: rest => node.words literal :: wordsEach literal rest

end

def sourceText (literal : Binary64 → String) (node : Node) : String :=
  " ".intercalate (node.words literal)

end Kaleidoscope.Node
