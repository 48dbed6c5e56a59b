import Kaleidoscope.Node

/-! The grammar of the language, as derivations over tokens.

Operators stand on one level and group to the left, and grouping leaves the inner tree. The forms of
a program follow each other with nothing between them, so a name at the end of one form and a
parenthesis at the beginning of the next would read as a call.
-/

set_option autoImplicit false

namespace Kaleidoscope.Grammar

inductive Symbol where
  | expression
  | term
  | factor
  | arguments
  deriving DecidableEq, Repr

/-- A symbol derives tokens together with the trees they stand for: at least one tree for arguments,
exactly one for every other symbol. -/
inductive Derives : Symbol → List Token → List Node → Prop where
  | conditional {first second third : List Token} {condition consequent alternative : Node} :
      Derives .expression first [condition] → Derives .expression second [consequent] →
      Derives .expression third [alternative] →
      Derives .expression (.ifWord :: first ++ .thenWord :: second ++ .elseWord :: third)
        [.conditional condition consequent alternative]
  | plain {tokens : List Token} {tree : Node} :
      Derives .term tokens [tree] → Derives .expression tokens [tree]
  | single {tokens : List Token} {tree : Node} :
      Derives .factor tokens [tree] → Derives .term tokens [tree]
  | continued {first second : List Token} {left right : Node} (op : Operator) :
      Derives .term first [left] → Derives .factor second [right] →
      Derives .term (first ++ .operator op :: second) [.binary left op right]
  | number (value : Binary64) : Derives .factor [.number value] [.number value]
  | identifier (name : String) : Derives .factor [.identifier name] [.identifier name]
  | group {tokens : List Token} {tree : Node} :
      Derives .expression tokens [tree] →
      Derives .factor (.openParen :: tokens ++ [.closeParen]) [tree]
  | emptyCall (callee : String) :
      Derives .factor [.identifier callee, .openParen, .closeParen] [.call callee []]
  | call {tokens : List Token} {trees : List Node} (callee : String) :
      Derives .arguments tokens trees →
      Derives .factor (.identifier callee :: .openParen :: tokens ++ [.closeParen])
        [.call callee trees]
  | last {tokens : List Token} {tree : Node} :
      Derives .expression tokens [tree] → Derives .arguments tokens [tree]
  | further {first second : List Token} {tree : Node} {trees : List Node} :
      Derives .expression first [tree] → Derives .arguments second trees →
      Derives .arguments (first ++ .comma :: second) (tree :: trees)

def parameterTokens : List String → List Token
  | [] => []
  | [name] => [.identifier name]
  | name :: rest => .identifier name :: .comma :: parameterTokens rest

def prototypeTokens (prototype : Prototype) : List Token :=
  .identifier prototype.name :: .openParen :: parameterTokens prototype.parameters ++ [.closeParen]

inductive Form : List Token → Node → Prop where
  | definition {tokens : List Token} {body : Node} (prototype : Prototype) :
      Derives .expression tokens [body] →
      Form (.define :: prototypeTokens prototype ++ tokens) (.definition prototype body)
  | declaration (prototype : Prototype) :
      Form (.declare :: prototypeTokens prototype) (.declaration prototype)
  | expression {tokens : List Token} {tree : Node} :
      Derives .expression tokens [tree] → Form tokens tree

inductive Program : List (List Token) → List Node → Prop where
  | nil : Program [] []
  | cons {tokens : List Token} {tree : Node} {others : List (List Token)} {trees : List Node} :
      Form tokens tree → Program others trees → Program (tokens :: others) (tree :: trees)

def endsWithName (tokens : List Token) : Bool :=
  tokens.getLast?.any (·.kind = .identifier)

def startsWithParen (tokens : List Token) : Bool :=
  tokens.head?.any (·.kind = .openParen)

/-- Where the first form would swallow the beginning of the second. -/
def fuses (first second : List Token) : Bool := endsWithName first && startsWithParen second

def fusions : List (List Token) → Nat
  | first :: second :: rest =>
      (if fuses first second then 1 else 0) + fusions (second :: rest)
  | _ => 0

end Kaleidoscope.Grammar
