import Kaleidoscope.Grammar
import Mathlib.Data.List.Chain

/-! Forms that fuse.

Where a form ends with a name and the next one begins with a parenthesis, both together are one
form again: the name calls what stands in the parentheses, and the rest goes on behind the call.

Main statement: every way to cut a text into forms is mended into one without fusions by putting
together the forms that fuse, so that one form less is left for each fusion.
-/

set_option autoImplicit false

namespace Kaleidoscope.Grammar

theorem Derives.ne_nil {symbol : Symbol} {tokens : List Token} {trees : List Node}
    (derivation : Derives symbol tokens trees) : tokens ≠ [] := by
  induction derivation with
  | plain _ ih | single _ ih | last _ ih => exact ih
  | conditional | continued | number | identifier | group | emptyCall | call | further => simp

theorem Form.ne_nil {tokens : List Token} {tree : Node} (form : Form tokens tree) : tokens ≠ [] := by
  cases form with
  | definition | declaration => simp
  | expression derivation => exact derivation.ne_nil

@[simp] theorem startsWithParen_cons (token : Token) (rest : List Token) :
    startsWithParen (token :: rest) = decide (token.kind = .openParen) := rfl

theorem startsWithParen_append {first : List Token} (nonempty : first ≠ []) (second : List Token) :
    startsWithParen (first ++ second) = startsWithParen first := by
  obtain ⟨token, rest, rfl⟩ := List.exists_cons_of_ne_nil nonempty
  rfl

theorem endsWithName_append {second : List Token} (nonempty : second ≠ []) (first : List Token) :
    endsWithName (first ++ second) = endsWithName second := by
  simp only [endsWithName, List.getLast?_append, List.getLast?_eq_some_getLast nonempty,
    Option.some_or]

@[simp] theorem endsWithName_concat (tokens : List Token) (token : Token) :
    endsWithName (tokens ++ [token]) = decide (token.kind = .identifier) := by
  simp [endsWithName]

theorem endsWithName_cons {rest : List Token} (nonempty : rest ≠ []) (token : Token) :
    endsWithName (token :: rest) = endsWithName rest :=
  endsWithName_append nonempty [token]

theorem fuses_map_iff {α : Type} {token : α → Token} {first second : List α} :
    fuses (first.map token) (second.map token) = true ↔
      ∃ name next, first.getLast? = some name ∧ second.head? = some next ∧
        (token name).kind = .identifier ∧ (token next).kind = .openParen := by
  simp only [fuses, endsWithName, startsWithParen, List.getLast?_map, List.head?_map, Option.any_map,
    Bool.and_eq_true, Option.any_eq_true, decide_eq_true_eq]
  constructor
  · rintro ⟨⟨name, ends, named⟩, next, begins, opened⟩
    exact ⟨name, next, ends, begins, named, opened⟩
  · rintro ⟨name, next, ends, begins, named, opened⟩
    exact ⟨⟨name, ends, named⟩, next, begins, opened⟩

/-- Operations that may stand behind any term. -/
def Continues (tail : List Token) : Prop :=
  ∀ tokens tree, Derives .term tokens [tree] → ∃ result, Derives .term (tokens ++ tail) [result]

theorem Derives.group_split {symbol : Symbol} {tokens : List Token} {trees : List Node}
    (derivation : Derives symbol tokens trees) (single : symbol ≠ .arguments)
    (opened : startsWithParen tokens = true) :
    ∃ inner value tail, tokens = .openParen :: inner ++ .closeParen :: tail ∧
      Derives .expression inner [value] ∧ Continues tail := by
  induction derivation with
  | plain _ ih | single _ ih => exact ih (by simp) opened
  | @continued first second left right op before operand ih =>
    -- The group stands at the beginning of the left operand; the operator joins the tail.
    rw [startsWithParen_append before.ne_nil] at opened
    obtain ⟨inner, value, tail, rfl, within, continues⟩ := ih (by simp) opened
    refine ⟨inner, value, tail ++ .operator op :: second, by simp, within, ?_⟩
    intro tokens tree term
    obtain ⟨result, extended⟩ := continues tokens tree term
    exact ⟨_, by simpa using extended.continued op operand⟩
  | @group tokens tree within =>
    exact ⟨tokens, tree, [], rfl, within, fun _ tree term => ⟨tree, by simpa using term⟩⟩
  | conditional | number | identifier | emptyCall | call => simp [Token.kind] at opened
  | last | further => exact absurd rfl single

theorem Derives.eq_identifier {tokens : List Token} {tree : Node}
    (factor : Derives .factor tokens [tree]) (named : endsWithName tokens = true) :
    ∃ name, tokens = [.identifier name] := by
  cases factor with
  | number => simp [endsWithName, Token.kind] at named
  | identifier name => exact ⟨name, rfl⟩
  | group | call =>
    rw [endsWithName_concat] at named
    simp [Token.kind] at named
  | emptyCall => simp [endsWithName, Token.kind] at named

/-- A factor with operations behind it is no factor any more. -/
def Symbol.extended : Symbol → Symbol
  | .expression => .expression
  | .term | .factor => .term
  | .arguments => .arguments

/-- The name at the end of the first part calls the group at the beginning of the second. -/
theorem Derives.fuse {symbol : Symbol} {first second : List Token} {trees : List Node} {right : Node}
    (before : Derives symbol first trees) (single : symbol ≠ .arguments)
    (behind : Derives .expression second [right]) (fused : fuses first second = true) :
    ∃ tree, Derives symbol.extended (first ++ second) [tree] := by
  simp only [fuses, Bool.and_eq_true] at fused
  obtain ⟨named, opened⟩ := fused
  obtain ⟨inner, value, tail, rfl, within, continues⟩ := behind.group_split (by simp) opened
  have called (name : String) : Derives .factor
      (.identifier name :: .openParen :: inner ++ [.closeParen]) [.call name [value]] :=
    .call name within.last
  induction before with
  | @conditional _ _ third _ _ _ condition consequent alternative _ _ ih =>
    rw [endsWithName_append (by simp), endsWithName_cons alternative.ne_nil] at named
    obtain ⟨tree, extended⟩ := ih (by simp) named
    exact ⟨_, by simpa [Symbol.extended] using condition.conditional consequent extended⟩
  | plain _ ih =>
    obtain ⟨tree, extended⟩ := ih (by simp) named
    exact ⟨tree, .plain extended⟩
  | single _ ih => exact ih (by simp) named
  | continued op term operand =>
    rw [endsWithName_append (by simp), endsWithName_cons operand.ne_nil] at named
    -- The name is the whole last operand, so what stands in front of the operator stays.
    obtain ⟨name, rfl⟩ := operand.eq_identifier named
    obtain ⟨tree, extended⟩ := continues _ _ (term.continued op (called name))
    exact ⟨tree, by simpa [Symbol.extended] using extended⟩
  | identifier name =>
    obtain ⟨tree, extended⟩ := continues _ _ (called name).single
    exact ⟨tree, by simpa [Symbol.extended] using extended⟩
  | number | emptyCall => simp [endsWithName, Token.kind] at named
  | group | call =>
    rw [endsWithName_concat] at named
    simp [Token.kind] at named
  | last | further => exact absurd rfl single

theorem Form.fuse {first second : List Token} {left right : Node} (before : Form first left)
    (behind : Form second right) (fused : fuses first second = true) :
    ∃ tree, Form (first ++ second) tree := by
  have opened : startsWithParen second = true := by
    simp only [fuses, Bool.and_eq_true] at fused
    exact fused.2
  cases behind with
  | definition | declaration => simp [Token.kind] at opened
  | expression behind =>
    cases before with
    | @definition tokens body prototype derivation =>
      have named : fuses tokens second = true := by
        simpa only [fuses, endsWithName_append derivation.ne_nil] using fused
      obtain ⟨tree, extended⟩ := derivation.fuse (by simp) behind named
      refine ⟨.definition prototype tree, ?_⟩
      rw [List.append_assoc]
      exact .definition prototype extended
    | declaration prototype =>
      simp only [fuses, prototypeTokens, ← List.cons_append, endsWithName_concat] at fused
      simp [Token.kind] at fused
    | expression derivation =>
      obtain ⟨tree, extended⟩ := derivation.fuse (by simp) behind fused
      exact ⟨tree, .expression extended⟩

theorem Program.length_eq {forms : List (List Token)} {trees : List Node}
    (program : Program forms trees) : trees.length = forms.length := by
  induction program with
  | nil => rfl
  | cons _ _ ih => rw [List.length_cons, List.length_cons, ih]

-- Only the text behind a form decides whether the form fuses.
theorem fusions_cons {others : List (List Token)} {trees : List Node}
    (program : Program others trees) (tokens : List Token) :
    fusions (tokens :: others) =
      (if fuses tokens others.flatten then 1 else 0) + fusions others := by
  cases program with
  | nil => simp [fusions, fuses, startsWithParen]
  | @cons second _ rest _ form _ =>
    have same : fuses tokens (second :: rest).flatten = fuses tokens second := by
      simp only [fuses, List.flatten_cons, startsWithParen_append form.ne_nil]
    rw [same, fusions]

theorem fusions_eq_zero_iff {forms : List (List Token)} :
    fusions forms = 0 ↔ forms.IsChain fun first second => fuses first second = false := by
  induction forms with
  | nil => simp [fusions]
  | cons first rest ih =>
    cases rest with
    | nil => simp [fusions]
    | cons second rest =>
      rw [fusions, List.isChain_cons_cons, ← ih]
      cases fuses first second <;> simp

theorem fusions_concat_eq_zero_iff {forms : List (List Token)} {tokens : List Token} :
    fusions (forms ++ [tokens]) = 0 ↔
      fusions forms = 0 ∧ ∀ last ∈ forms.getLast?, fuses last tokens = false := by
  simp [fusions_eq_zero_iff, List.isChain_append]

theorem Program.concat {forms : List (List Token)} {trees : List Node} {tokens : List Token}
    {tree : Node} (program : Program forms trees) (form : Form tokens tree) :
    Program (forms ++ [tokens]) (trees ++ [tree]) := by
  induction program with
  | nil => exact .cons form .nil
  | cons first _ ih => exact .cons first ih

theorem fuses_append_left {second : List Token} (nonempty : second ≠ []) (first third : List Token) :
    fuses (first ++ second) third = fuses second third := by
  simp only [fuses, endsWithName_append nonempty]

/-- The tokens are cut into forms that keep apart, and the forms stand for the trees. -/
def Reading (tokens : List Token) (nodes : List Node) : Prop :=
  ∃ forms, forms.flatten = tokens ∧ Program forms nodes ∧ fusions forms = 0

/-- The form in front of forms that keep apart; it takes up the first of them if both fuse. -/
def attach (tokens : List Token) : List (List Token) → List (List Token)
  | [] => [tokens]
  | next :: others =>
      if fuses tokens next then (tokens ++ next) :: others else tokens :: next :: others

theorem attach_cons (tokens next : List Token) (others : List (List Token)) :
    attach tokens (next :: others) =
      if fuses tokens next then (tokens ++ next) :: others else tokens :: next :: others := rfl

/-- The forms with those that fuse put together, from the last joint to the first. -/
def mended (forms : List (List Token)) : List (List Token) := forms.foldr attach []

theorem flatten_attach (tokens : List Token) (others : List (List Token)) :
    (attach tokens others).flatten = tokens ++ others.flatten := by
  unfold attach
  split
  · rfl
  · split <;> simp

theorem flatten_mended (forms : List (List Token)) : (mended forms).flatten = forms.flatten := by
  induction forms with
  | nil => rfl
  | cons tokens forms ih =>
    rw [mended, List.foldr_cons, flatten_attach, List.flatten_cons, ← ih]
    rfl

theorem Form.attach {tokens : List Token} {tree : Node} {others : List (List Token)}
    {nodes : List Node} (form : Form tokens tree) (program : Program others nodes)
    (unfused : fusions others = 0) :
    ∃ found, Program (attach tokens others) found ∧ fusions (attach tokens others) = 0 ∧
      found.length + (if fuses tokens others.flatten then 1 else 0) = nodes.length + 1 := by
  cases program with
  | nil => exact ⟨[tree], .cons form .nil, rfl, by simp [fuses, startsWithParen]⟩
  | @cons next right others nodes behind program =>
    have joint : fuses tokens (next :: others).flatten = fuses tokens next := by
      simp only [fuses, List.flatten_cons, startsWithParen_append behind.ne_nil]
    rw [joint, attach_cons]
    rw [fusions_cons program] at unfused
    by_cases fused : fuses tokens next = true
    · obtain ⟨whole, joined⟩ := form.fuse behind fused
      rw [if_pos fused, if_pos fused]
      refine ⟨whole :: nodes, .cons joined program, ?_, rfl⟩
      rw [fusions_cons program, fuses_append_left behind.ne_nil]
      exact unfused
    · rw [if_neg fused, if_neg fused]
      refine ⟨tree :: right :: nodes, .cons form (.cons behind program), ?_, rfl⟩
      rw [fusions, if_neg fused, fusions_cons program, Nat.zero_add]
      exact unfused

theorem Program.mend {forms : List (List Token)} {trees : List Node}
    (program : Program forms trees) :
    ∃ nodes, Program (mended forms) nodes ∧ fusions (mended forms) = 0 ∧
      nodes.length + fusions forms = trees.length := by
  induction program with
  | nil => exact ⟨[], .nil, rfl, rfl⟩
  | @cons tokens tree forms trees form program ih =>
    obtain ⟨nodes, rest, unfused, count⟩ := ih
    obtain ⟨found, whole, apart, joint⟩ := form.attach rest unfused
    refine ⟨found, whole, apart, ?_⟩
    -- Mending the rest leaves its first token in its place, and with it the joint.
    rw [flatten_mended] at joint
    rw [fusions_cons program, List.length_cons]
    omega

end Kaleidoscope.Grammar
