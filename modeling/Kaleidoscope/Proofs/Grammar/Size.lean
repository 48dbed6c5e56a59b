import Kaleidoscope.Proofs.Grammar.Fusion

/-! How large trees are.

Main statement: a tree is no larger than the tokens that it is derived from are many.
-/

set_option autoImplicit false

namespace Kaleidoscope

namespace Node

mutual

/-- How many trees stand in a tree, counting itself. -/
def size : Node → Nat
  | .number _ | .identifier _ | .declaration _ => 1
  | .binary left _ right => 1 + left.size + right.size
  | .call _ arguments => 1 + sizeEach arguments
  | .conditional condition consequent alternative =>
      1 + condition.size + consequent.size + alternative.size
  | .definition _ body => 1 + body.size

def sizeEach : List Node → Nat
  | [] => 0
  | node :: rest => node.size + sizeEach rest

end

theorem size_pos (node : Node) : 0 < node.size := by
  cases node <;> simp only [size] <;> omega

@[simp] theorem sizeEach_singleton (node : Node) : sizeEach [node] = node.size := rfl

end Node

namespace Grammar

open Node (sizeEach)

theorem Derives.sizeEach_le {symbol : Symbol} {tokens : List Token} {trees : List Node}
    (derivation : Derives symbol tokens trees) : sizeEach trees ≤ tokens.length := by
  induction derivation with
  | plain _ ih | single _ ih | last _ ih => exact ih
  | number | identifier | emptyCall => simp [Node.size, sizeEach]
  | conditional | continued | group | call | further =>
    simp only [sizeEach, Node.size, List.length_append, List.length_cons] at *
    omega

theorem Form.size_le {tokens : List Token} {tree : Node} (form : Form tokens tree) :
    tree.size ≤ tokens.length := by
  cases form with
  | definition prototype derivation =>
    have body := derivation.sizeEach_le
    simp only [Node.sizeEach_singleton, Node.size, List.length_append, List.length_cons] at *
    omega
  | declaration => simp [Node.size]
  | expression derivation => exact derivation.sizeEach_le

theorem Program.sizeEach_le {forms : List (List Token)} {trees : List Node}
    (program : Program forms trees) : sizeEach trees ≤ forms.flatten.length := by
  induction program with
  | nil => exact Nat.zero_le _
  | cons form _ others =>
    have first := form.size_le
    rw [List.flatten_cons, List.length_append]
    exact Nat.add_le_add first others

theorem Reading.sizeEach_le {tokens : List Token} {nodes : List Node}
    (reading : Reading tokens nodes) : sizeEach nodes ≤ tokens.length := by
  obtain ⟨forms, rfl, program, -⟩ := reading
  exact program.sizeEach_le

end Grammar

end Kaleidoscope
