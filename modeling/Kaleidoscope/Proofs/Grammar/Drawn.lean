import Kaleidoscope.Grammar
import Kaleidoscope.Proofs.Node.Subtrees

/-! Where trees have their names and numbers from.

Main statement: every name and every number in the tree of a form is carried by one of its tokens, and
definitions and declarations stand in no tree.
-/

set_option autoImplicit false

namespace Kaleidoscope

namespace Grammar

/-- What the root of the tree carries is carried by tokens. -/
structure DrawnFrom (tokens : List Token) (node : Node) : Prop where
  names : ∀ name ∈ node.names, .identifier name ∈ tokens
  numbers : ∀ value ∈ node.numbers, .number value ∈ tokens

/-- An expression that carries what tokens carry. -/
structure DrawnExpression (tokens : List Token) (node : Node) : Prop extends
    DrawnFrom tokens node where
  expression : node.isExpression = true

end Grammar

open Grammar (DrawnFrom DrawnExpression)

variable {tokens others : List Token} {node : Node}

theorem Grammar.DrawnFrom.mono (drawn : DrawnFrom tokens node) (within : tokens ⊆ others) :
    DrawnFrom others node :=
  ⟨fun name member => within (drawn.names name member),
    fun value member => within (drawn.numbers value member)⟩

theorem Node.Everywhere.widen (drawn : node.Everywhere (DrawnExpression tokens))
    (within : tokens ⊆ others) : node.Everywhere (DrawnExpression others) :=
  drawn.mono fun _ here => ⟨here.toDrawnFrom.mono within, here.expression⟩

namespace Grammar

-- What an operation and a conditional carry stands below them.
theorem DrawnExpression.of_children (expression : node.isExpression = true)
    (noName : node.names = []) (noNumber : node.numbers = [])
    (below : ∀ child ∈ node.children, child.Everywhere (DrawnExpression tokens)) :
    node.Everywhere (DrawnExpression tokens) :=
  Node.everywhere_iff.mpr ⟨⟨⟨by simp [noName], by simp [noNumber]⟩, expression⟩, below⟩

theorem DrawnExpression.call {callee : String} {arguments : List Node}
    (named : .identifier callee ∈ tokens)
    (below : ∀ argument ∈ arguments, argument.Everywhere (DrawnExpression tokens)) :
    (Node.call callee arguments).Everywhere (DrawnExpression tokens) :=
  Node.everywhere_iff.mpr ⟨⟨⟨by simpa [Node.names], by simp [Node.numbers]⟩, rfl⟩, below⟩

theorem Derives.drawn {symbol : Symbol} {trees : List Node}
    (derivation : Derives symbol tokens trees) :
    ∀ tree ∈ trees, tree.Everywhere (DrawnExpression tokens) := by
  induction derivation with
  | plain _ ih | single _ ih | last _ ih => exact ih
  | number value | identifier name =>
    simp only [List.forall_mem_singleton]
    exact Node.everywhere_iff.mpr
      ⟨⟨⟨by simp [Node.names], by simp [Node.numbers]⟩, rfl⟩, by simp [Node.children]⟩
  | conditional _ _ _ ihCondition ihConsequent ihAlternative =>
    simp only [List.forall_mem_singleton] at *
    refine .of_children rfl rfl rfl ?_
    simp only [Node.children, List.forall_mem_cons]
    exact ⟨ihCondition.widen fun _ inside => by simp [inside],
      ihConsequent.widen fun _ inside => by simp [inside],
      ihAlternative.widen fun _ inside => by simp [inside], by simp⟩
  | continued op _ _ ihLeft ihRight =>
    simp only [List.forall_mem_singleton] at *
    refine .of_children rfl rfl rfl ?_
    simp only [Node.children, List.forall_mem_cons]
    exact ⟨ihLeft.widen (by simp), ihRight.widen (by simp), by simp⟩
  | group _ ih =>
    simp only [List.forall_mem_singleton] at *
    exact ih.widen (by simp)
  | emptyCall callee =>
    simp only [List.forall_mem_singleton]
    exact .call (by simp) (by simp)
  | call callee _ ih =>
    simp only [List.forall_mem_singleton]
    exact .call (by simp) fun argument member =>
      (ih argument member).widen fun _ inside => by simp [inside]
  | further _ _ ih ihOthers =>
    simp only [List.forall_mem_cons] at ih ⊢
    exact ⟨ih.1.widen (by simp), fun tree member => (ihOthers tree member).widen (by simp)⟩

theorem mem_parameterTokens {names : List String} {name : String} (member : name ∈ names) :
    .identifier name ∈ parameterTokens names := by
  induction names with
  | nil => simp at member
  | cons first rest ih =>
    cases rest with
    | nil => simpa [parameterTokens] using member
    | cons second rest =>
      rcases List.mem_cons.mp member with rfl | member
      · simp [parameterTokens]
      · simp only [parameterTokens, List.mem_cons]
        exact .inr (.inr (ih member))

theorem mem_prototypeTokens {prototype : Prototype} {name : String}
    (member : name ∈ prototype.name :: prototype.parameters) :
    .identifier name ∈ prototypeTokens prototype := by
  rcases List.mem_cons.mp member with rfl | member
  · simp [prototypeTokens]
  · simp [prototypeTokens, mem_parameterTokens member]

theorem Form.drawn (form : Form tokens node) :
    DrawnFrom tokens node ∧ ∀ child ∈ node.children, child.Everywhere (DrawnExpression tokens) := by
  cases form with
  | definition prototype derivation =>
    have body := List.forall_mem_singleton.mp derivation.drawn
    refine ⟨⟨fun name member => ?_, by simp [Node.numbers]⟩, ?_⟩
    · simp [mem_prototypeTokens member]
    · simp only [Node.children, List.forall_mem_singleton]
      exact body.widen (by simp)
  | declaration prototype =>
    refine ⟨⟨fun name member => ?_, by simp [Node.numbers]⟩, by simp [Node.children]⟩
    simp [mem_prototypeTokens member]
  | expression derivation =>
    have tree := List.forall_mem_singleton.mp derivation.drawn
    obtain ⟨here, below⟩ := Node.everywhere_iff.mp tree
    exact ⟨here.toDrawnFrom, below⟩

theorem Program.exists_form {forms : List (List Token)} {trees : List Node}
    (program : Program forms trees) {tree : Node} (member : tree ∈ trees) :
    ∃ tokens, tokens ⊆ forms.flatten ∧ Form tokens tree := by
  induction program with
  | nil => simp at member
  | cons form _ ih =>
    rcases List.mem_cons.mp member with rfl | member
    · exact ⟨_, by simp, form⟩
    · obtain ⟨tokens, within, form⟩ := ih member
      exact ⟨tokens, fun _ inside => by simpa using .inr (by simpa using within inside), form⟩

end Grammar

end Kaleidoscope
