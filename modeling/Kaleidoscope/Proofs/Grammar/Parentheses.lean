import Kaleidoscope.Proofs.Grammar.Drawn
import Kaleidoscope.Proofs.Grammar.Fusion

/-! Parentheses around expressions.

What a symbol derives has its parentheses in pairs, so a scan for the parenthesis that closes an earlier
one passes over it.

Main statements: an expression is one with any number of parentheses around it, with the same tree; and a
form in parentheses of which the first is closed by the last is an expression between them.
-/

set_option autoImplicit false

namespace Kaleidoscope.Grammar

/-- The index of the token that closes an open parenthesis with so many others open inside it. -/
def closing? (inner : Nat) : List Token → Option Nat
  | [] => none
  | .openParen :: rest => (closing? (inner + 1) rest).map (· + 1)
  | .closeParen :: rest =>
      match inner with
      | 0 => some 0
      | inner + 1 => (closing? inner rest).map (· + 1)
  | _ :: rest => (closing? inner rest).map (· + 1)

/-- Tokens with their parentheses in pairs. -/
inductive Balanced : List Token → Prop where
  | nil : Balanced []
  | cons {token : Token} {tokens : List Token} : token ≠ .openParen → token ≠ .closeParen →
      Balanced tokens → Balanced (token :: tokens)
  | append {first second : List Token} : Balanced first → Balanced second → Balanced (first ++ second)
  | group {tokens : List Token} : Balanced tokens → Balanced (.openParen :: tokens ++ [.closeParen])

theorem closing?_cons {token : Token} (noOpen : token ≠ .openParen) (noClose : token ≠ .closeParen)
    (inner : Nat) (rest : List Token) :
    closing? inner (token :: rest) = (closing? inner rest).map (· + 1) := by
  cases token with
  | openParen => exact absurd rfl noOpen
  | closeParen => exact absurd rfl noClose
  | _ => rfl

theorem map_add_map_add (found : Option Nat) (first second : Nat) :
    (found.map (· + first)).map (· + second) = found.map (· + (first + second)) := by
  cases found with
  | none => rfl
  | some index => simp [Nat.add_assoc]

theorem Balanced.closing?_append {tokens : List Token} (balanced : Balanced tokens) (inner : Nat)
    (rest : List Token) :
    closing? inner (tokens ++ rest) = (closing? inner rest).map (· + tokens.length) := by
  -- No parenthesis from outside is closed in the middle, however many of them are open.
  induction balanced generalizing inner rest with
  | nil => simp
  | cons noOpen noClose _ ih =>
    rw [List.cons_append, closing?_cons noOpen noClose, ih, map_add_map_add]
    rfl
  | append _ _ ihFirst ihSecond =>
    rw [List.append_assoc, ihFirst, ihSecond, map_add_map_add, List.length_append, Nat.add_comm]
  | @group tokens _ ih =>
    -- One parenthesis more is open up to the end of the group, so that end is not the one looked for.
    have length : (Token.openParen :: tokens ++ [Token.closeParen]).length = 1 + tokens.length + 1 := by
      simp [Nat.add_comm]
    rw [length, List.append_assoc, List.cons_append, closing?, ih, List.singleton_append, closing?,
      map_add_map_add, map_add_map_add, Nat.add_assoc]

theorem Balanced.closing?_eq {tokens : List Token} (balanced : Balanced tokens) (rest : List Token) :
    closing? 0 (tokens ++ .closeParen :: rest) = some tokens.length := by
  rw [balanced.closing?_append, closing?]
  simp

theorem Balanced.joined {first second : List Token} {token : Token} (before : Balanced first)
    (noOpen : token ≠ .openParen) (noClose : token ≠ .closeParen) (behind : Balanced second) :
    Balanced (first ++ token :: second) :=
  before.append (.cons noOpen noClose behind)

theorem Derives.balanced {symbol : Symbol} {tokens : List Token} {trees : List Node}
    (derivation : Derives symbol tokens trees) : Balanced tokens := by
  induction derivation with
  | plain _ ih | single _ ih | last _ ih => exact ih
  | number | identifier => exact .cons (by simp) (by simp) .nil
  | conditional _ _ _ ihCondition ihConsequent ihAlternative =>
    rw [List.append_assoc]
    exact .cons (by simp) (by simp)
      (ihCondition.joined (by simp) (by simp) (ihConsequent.joined (by simp) (by simp) ihAlternative))
  | continued op _ _ ihFirst ihSecond | further _ _ ihFirst ihSecond =>
    exact ihFirst.joined (by simp) (by simp) ihSecond
  | group _ ih => exact ih.group
  | emptyCall => exact .cons (by simp) (by simp) (.group .nil)
  | call _ _ ih => exact .cons (by simp) (by simp) ih.group

theorem Derives.isExpression {symbol : Symbol} {tokens : List Token} {tree : Node}
    (derivation : Derives symbol tokens [tree]) : tree.isExpression = true :=
  (Node.everywhere_iff.mp (derivation.drawn tree (by simp))).1.expression

theorem Derives.inParentheses {tokens : List Token} {tree : Node}
    (derivation : Derives .expression tokens [tree]) (count : Nat) :
    Derives .expression
      (List.replicate count .openParen ++ tokens ++ List.replicate count .closeParen) [tree] := by
  induction count with
  | zero => simpa using derivation
  | succ count ih =>
    have wrapped := ih.group
    rw [List.replicate_succ, List.replicate_succ']
    exact .plain (.single (by simpa using wrapped))

theorem Form.derives {tokens : List Token} {tree : Node} (form : Form tokens tree)
    (expression : tree.isExpression = true) : Derives .expression tokens [tree] := by
  cases form with
  | definition | declaration => simp [Node.isExpression] at expression
  | expression derivation => exact derivation

theorem Form.derives_of_paren {tokens : List Token} {tree : Node} (form : Form tokens tree)
    (opened : startsWithParen tokens = true) : Derives .expression tokens [tree] := by
  cases form with
  | definition | declaration => simp [Token.kind] at opened
  | expression derivation => exact derivation

theorem Form.derives_of_closing {tokens : List Token} {tree : Node}
    (form : Form (.openParen :: tokens ++ [.closeParen]) tree)
    (closed : closing? 0 (tokens ++ [.closeParen]) = some tokens.length) :
    ∃ value, Derives .expression tokens [value] := by
  have opened : startsWithParen (.openParen :: tokens ++ [.closeParen]) = true := rfl
  obtain ⟨inner, value, tail, whole, within, -⟩ :=
    (form.derives_of_paren opened).group_split (by simp) opened
  have behind : tokens ++ [.closeParen] = inner ++ .closeParen :: tail := by simpa using whole
  rw [behind, within.balanced.closing?_eq] at closed
  obtain ⟨rfl, -⟩ := List.append_inj behind (Option.some.inj closed).symm
  exact ⟨value, within⟩

theorem reading_singleton_iff {tokens : List Token} {tree : Node} :
    Reading tokens [tree] ↔ Form tokens tree := by
  constructor
  · rintro ⟨forms, rfl, program, -⟩
    obtain _ | ⟨form, _ | _⟩ := program
    simpa using form
  · intro form
    exact ⟨[tokens], by simp, .cons form .nil, rfl⟩

end Kaleidoscope.Grammar
