import Kaleidoscope.Node

/-! What stands in a tree.

Main statements: what holds of a tree wherever it holds of the trees right below it holds of all trees,
and a tree without anything that is not a number agrees with itself.
-/

set_option autoImplicit false

namespace Kaleidoscope.Node

def children : Node → List Node
  | .number _ | .identifier _ | .declaration _ => []
  | .binary left _ right => [left, right]
  | .call _ arguments => arguments
  | .conditional condition consequent alternative => [condition, consequent, alternative]
  | .definition _ body => [body]

def names : Node → List String
  | .identifier name => [name]
  | .call callee _ => [callee]
  | .definition prototype _ | .declaration prototype => prototype.name :: prototype.parameters
  | .number _ | .binary .. | .conditional .. => []

def numbers : Node → List Binary64
  | .number value => [value]
  | .identifier _ | .binary .. | .call .. | .conditional .. | .definition .. | .declaration _ => []

def isExpression : Node → Bool
  | .definition .. | .declaration _ => false
  | .number _ | .identifier _ | .binary .. | .call .. | .conditional .. => true

theorem sizeOf_lt_of_mem_children {node child : Node} (member : child ∈ node.children) :
    sizeOf child < sizeOf node := by
  cases node with
  | number | identifier | declaration => simp [children] at member
  | binary | conditional | definition =>
    simp only [children, List.mem_cons, List.not_mem_nil, or_false] at member
    simp only [binary.sizeOf_spec, conditional.sizeOf_spec, definition.sizeOf_spec]
    grind
  | call callee arguments =>
    have inside : sizeOf child < sizeOf arguments := List.sizeOf_lt_of_mem member
    simp only [call.sizeOf_spec]
    omega

@[elab_as_elim]
theorem induction_children {motive : Node → Prop}
    (step : ∀ node, (∀ child ∈ node.children, motive child) → motive node) (node : Node) :
    motive node :=
  step node fun child _ => induction_children step child
termination_by node
decreasing_by
  exact sizeOf_lt_of_mem_children ‹_›

/-- The tree itself, or one that stands in a tree right below it. -/
inductive Within : Node → Node → Prop where
  | self (node : Node) : Within node node
  | child {inner child node : Node} :
      child ∈ node.children → Within inner child → Within inner node

/-- The property holds in every place of a tree. -/
def Everywhere (property : Node → Prop) (node : Node) : Prop :=
  ∀ inner, inner.Within node → property inner

variable {property other : Node → Prop} {node : Node}

theorem everywhere_iff :
    node.Everywhere property ↔ property node ∧ ∀ child ∈ node.children, child.Everywhere property := by
  constructor
  · intro everywhere
    exact ⟨everywhere node (.self node), fun _ member inner within =>
      everywhere inner (.child member within)⟩
  · rintro ⟨here, below⟩ inner within
    cases within with
    | self => exact here
    | child member within => exact below _ member inner within

theorem Everywhere.mono (implies : ∀ node, property node → other node)
    (everywhere : node.Everywhere property) : node.Everywhere other :=
  fun inner within => implies inner (everywhere inner within)

theorem agreesNodes_self {nodes : List Node}
    (each : ∀ node ∈ nodes, node.agreesNode node = true) : agreesNodes nodes nodes = true := by
  induction nodes with
  | nil => rfl
  | cons node rest ih =>
    obtain ⟨first, others⟩ := List.forall_mem_cons.mp each
    simp [agreesNodes, first, ih others]

theorem agrees_self
    (numbers : node.Everywhere fun inner => ∀ value ∈ inner.numbers, value.isNaN = false) :
    agrees node node = true := by
  induction node using induction_children with
  | step node ih =>
    obtain ⟨here, below⟩ := everywhere_iff.mp numbers
    have same (child : Node) (member : child ∈ node.children) : child.agreesNode child = true :=
      ih child member (below child member)
    show node.agreesNode node = true
    cases node with
    | number value =>
      have number : value.isNaN = false := here value (by simp [Node.numbers])
      simp [agreesNode, agrees, number]
    | identifier | declaration => simp [agreesNode]
    | binary | conditional | definition =>
      simp only [children, List.forall_mem_cons] at same
      simp [agreesNode, same]
    | call callee arguments =>
      have each : agreesNodes arguments arguments = true := agreesNodes_self same
      simp [agreesNode, each]

end Kaleidoscope.Node
