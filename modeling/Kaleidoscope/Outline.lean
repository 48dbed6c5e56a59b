/-! Structured values for display.

An outline is written on one line, or with every part on a line of its own.
-/

set_option autoImplicit false

namespace Kaleidoscope

inductive Outline.Bracket where
  | parentheses
  | braces
  | brackets
  deriving DecidableEq, Repr

/-- A block has named or unnamed parts between brackets. -/
inductive Outline where
  | atom (text : String)
  | labelled (label : String) (value : Outline)
  | block (head : String) (bracket : Outline.Bracket) (parts : List Outline)

namespace Outline

def Bracket.opening : Bracket → String
  | .parentheses => "("
  | .braces => " \x7b"
  | .brackets => "["

def Bracket.closing : Bracket → String
  | .parentheses => ")"
  | .braces => "\x7d"
  | .brackets => "]"

-- Only braces stand apart from what they enclose.
def Bracket.gap : Bracket → String
  | .braces => " "
  | .parentheses | .brackets => ""

def record (head : String) (fields : List (String × Outline)) : Outline :=
  .block head .braces (fields.map fun field => .labelled field.1 field.2)

def sequence (items : List Outline) : Outline :=
  .block "" .brackets items

def tuple (head : String) (parts : List Outline) : Outline :=
  .block head .parentheses parts

mutual

def oneLine : Outline → String
  | .atom text => text
  | .labelled label value => label ++ ": " ++ value.oneLine
  | .block head bracket parts =>
      head ++ bracket.opening ++ bracket.gap ++ String.join (oneLineParts parts) ++ bracket.gap ++
        bracket.closing

def oneLineParts : List Outline → List String
  | [] => []
  | [part] => [part.oneLine]
  | part :: rest => part.oneLine :: ", " :: oneLineParts rest

end

def margin (depth : Nat) : String :=
  String.ofList (List.replicate (4 * depth) ' ')

mutual

/-- The text of an outline whose first line stands at the given depth. -/
def indented (depth : Nat) : Outline → String
  | .atom text => text
  | .labelled label value => label ++ ": " ++ value.indented depth
  | .block head bracket [] => head ++ bracket.opening ++ bracket.closing
  | .block head bracket (part :: rest) =>
      head ++ bracket.opening ++ "\n" ++ String.join (indentedParts (depth + 1) (part :: rest)) ++
        margin depth ++ bracket.closing

def indentedParts (depth : Nat) : List Outline → List String
  | [] => []
  | part :: rest => margin depth :: part.indented depth :: ",\n" :: indentedParts depth rest

end

end Outline

end Kaleidoscope
