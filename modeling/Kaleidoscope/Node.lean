import Kaleidoscope.Token

/-! Trees of definitions, declarations and expressions. -/

set_option autoImplicit false

namespace Kaleidoscope

structure Prototype where
  name : String
  parameters : List String
  deriving DecidableEq, Repr

/-- Grouping leaves no trace in a tree. -/
inductive Node where
  | number (value : Binary64)
  | identifier (name : String)
  | binary (left : Node) (op : Operator) (right : Node)
  | call (callee : String) (arguments : List Node)
  | conditional (condition consequent alternative : Node)
  | definition (prototype : Prototype) (body : Node)
  | declaration (prototype : Prototype)

namespace Node

-- Arguments nest nodes in lists, so equality is decided by a mutual recursion.
mutual

def decideEq (node other : Node) : Decidable (node = other) :=
  match node, other with
  | .number value, .number value' => decidable_of_iff (value = value') (by simp)
  | .identifier name, .identifier name' => decidable_of_iff (name = name') (by simp)
  | .binary left op right, .binary left' op' right' =>
      have := decideEq left left'
      have := decideEq right right'
      decidable_of_iff (left = left' ∧ op = op' ∧ right = right') (by simp)
  | .call callee arguments, .call callee' arguments' =>
      have := decideEqEach arguments arguments'
      decidable_of_iff (callee = callee' ∧ arguments = arguments') (by simp)
  | .conditional condition consequent alternative,
      .conditional condition' consequent' alternative' =>
      have := decideEq condition condition'
      have := decideEq consequent consequent'
      have := decideEq alternative alternative'
      decidable_of_iff
        (condition = condition' ∧ consequent = consequent' ∧ alternative = alternative')
        (by simp)
  | .definition prototype body, .definition prototype' body' =>
      have := decideEq body body'
      decidable_of_iff (prototype = prototype' ∧ body = body') (by simp)
  | .declaration prototype, .declaration prototype' =>
      decidable_of_iff (prototype = prototype') (by simp)
  | .number _, .identifier _ | .number _, .binary .. | .number _, .call ..
  | .number _, .conditional .. | .number _, .definition .. | .number _, .declaration _
  | .identifier _, .number _ | .identifier _, .binary .. | .identifier _, .call ..
  | .identifier _, .conditional .. | .identifier _, .definition ..
  | .identifier _, .declaration _
  | .binary .., .number _ | .binary .., .identifier _ | .binary .., .call ..
  | .binary .., .conditional .. | .binary .., .definition .. | .binary .., .declaration _
  | .call .., .number _ | .call .., .identifier _ | .call .., .binary ..
  | .call .., .conditional .. | .call .., .definition .. | .call .., .declaration _
  | .conditional .., .number _ | .conditional .., .identifier _ | .conditional .., .binary ..
  | .conditional .., .call .. | .conditional .., .definition .. | .conditional .., .declaration _
  | .definition .., .number _ | .definition .., .identifier _ | .definition .., .binary ..
  | .definition .., .call .. | .definition .., .conditional .. | .definition .., .declaration _
  | .declaration _, .number _ | .declaration _, .identifier _ | .declaration _, .binary ..
  | .declaration _, .call .. | .declaration _, .conditional .. | .declaration _, .definition .. =>
      isFalse (by simp)

def decideEqEach (nodes others : List Node) : Decidable (nodes = others) :=
  match nodes, others with
  | [], [] => isTrue rfl
  | node :: rest, node' :: rest' =>
      have := decideEq node node'
      have := decideEqEach rest rest'
      decidable_of_iff (node = node' ∧ rest = rest') (by simp)
  | [], _ :: _ | _ :: _, [] => isFalse (by simp)

end

instance : DecidableEq Node := decideEq

mutual

def agreesNode : Node → Node → Bool
  | .number value, .number other => agrees value other
  | .identifier name, .identifier other => name = other
  | .binary left op right, .binary left' op' right' =>
      left.agreesNode left' && op = op' && right.agreesNode right'
  | .call callee arguments, .call callee' arguments' =>
      callee = callee' && agreesNodes arguments arguments'
  | .conditional condition consequent alternative,
      .conditional condition' consequent' alternative' =>
      condition.agreesNode condition' && consequent.agreesNode consequent' &&
        alternative.agreesNode alternative'
  | .definition prototype body, .definition prototype' body' =>
      prototype = prototype' && body.agreesNode body'
  | .declaration prototype, .declaration prototype' => prototype = prototype'
  | _, _ => false

def agreesNodes : List Node → List Node → Bool
  | [], [] => true
  | first :: rest, other :: others => first.agreesNode other && agreesNodes rest others
  | [], _ :: _ | _ :: _, [] => false

end

instance : Agree Node := ⟨agreesNode⟩

def compactNames (names : List String) : String := "[" ++ ", ".intercalate names ++ "]"

mutual

/-- One line, with names as they are. -/
def compact : Node → String
  | .number value => "Number(" ++ value.plainText ++ ")"
  | .identifier name => "Identifier(" ++ name ++ ")"
  | .binary left op right =>
      "BinaryOp(" ++ left.compact ++ ", " ++ op.text ++ ", " ++ right.compact ++ ")"
  | .call callee arguments =>
      "FunctionCall(" ++ callee ++ ", " ++ compactNames (compactEach arguments) ++ ")"
  | .conditional condition consequent alternative =>
      "IfExpr(" ++ condition.compact ++ ", " ++ consequent.compact ++ ", " ++
        alternative.compact ++ ")"
  | .definition prototype body =>
      "FunctionDef(" ++ prototype.name ++ ", " ++ compactNames prototype.parameters ++ ", " ++
        body.compact ++ ")"
  | .declaration prototype =>
      "ExternDecl(" ++ prototype.name ++ ", " ++ compactNames prototype.parameters ++ ")"

def compactEach : List Node → List String
  | [] => []
  | node :: rest => node.compact :: compactEach rest

end

def outlineName (name : String) : Outline := .atom (Text.quotedString name)

def outlineNames (names : List String) : Outline := .sequence (names.map outlineName)

mutual

def outline : Node → Outline
  | .number value => .tuple "NumberLiteral" [.atom value.fullText]
  | .identifier name => .tuple "Identifier" [outlineName name]
  | .binary left op right =>
      .record "BinaryOp"
        [("left", left.outline), ("op", .atom op.name), ("right", right.outline)]
  | .call callee arguments =>
      .record "FunctionCall"
        [("name", outlineName callee), ("args", .sequence (outlineEach arguments))]
  | .conditional condition consequent alternative =>
      .record "IfExpr"
        [("condition", condition.outline), ("then_branch", consequent.outline),
          ("else_branch", alternative.outline)]
  | .definition prototype body =>
      .record "FunctionDef"
        [("name", outlineName prototype.name), ("params", outlineNames prototype.parameters),
          ("body", body.outline)]
  | .declaration prototype =>
      .record "ExternDecl"
        [("name", outlineName prototype.name), ("params", outlineNames prototype.parameters)]

def outlineEach : List Node → List Outline
  | [] => []
  | node :: rest => node.outline :: outlineEach rest

end

end Node

end Kaleidoscope
