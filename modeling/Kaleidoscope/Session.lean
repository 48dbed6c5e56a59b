import Kaleidoscope.Report
import Kaleidoscope.Text.Blank

/-! Reading a text line by line and answering each line by itself. -/

set_option autoImplicit false

namespace Kaleidoscope.Session

def prompt : String := "Ready >> "

/-- Written in place of an answer when the input has ended. -/
def farewell : String := "\n"

def newline : UInt8 := 10

/-- Each line with the newline at its end; only the last one may have none. -/
def lines (input : List UInt8) : List (List UInt8) :=
  if input = [] then []
  else
    match _found : input.dropWhile (· != newline) with
    | [] => [input]
    | _ :: rest => (input.takeWhile (· != newline) ++ [newline]) :: lines rest
termination_by input.length
decreasing_by
  have shorter : (input.dropWhile (· != newline)).length ≤ input.length :=
    (List.dropWhile_sublist _).length_le
  rw [_found] at shorter
  exact shorter

def describe : Node → String
  | .definition .. => "Parsed a function definition.\n"
  | .declaration .. => "Parsed an extern.\n"
  | .number _ | .identifier _ | .binary .. | .call .. | .conditional .. =>
      "Parsed a top-level expression.\n"

def answer (options : Options) (line : String) : List String :=
  match Source.program options.policy line with
  | .ok nodes => nodes.flatMap fun node => [describe node, Report.tree options node]
  | .error error => [error.excerpt line ++ "\n"]

-- The end of a line is trimmed before it is read.
def respond (options : Options) (line : List UInt8) : Transcript :=
  match Text.decode? line with
  | none => .fail (.broken .notText)
  | some text => .ofWrites (answer options (Text.trimEnd text))

def exchange (options : Options) : List (List UInt8) → Transcript
  | [] => .ofWrites [prompt, farewell]
  | line :: rest =>
      (Transcript.ofWrites [prompt]).andThen ((respond options line).andThen (exchange options rest))

def run (options : Options) (input : List UInt8) : Transcript := exchange options (lines input)

end Kaleidoscope.Session
