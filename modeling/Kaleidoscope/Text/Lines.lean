/-! The lines of a text.

A newline ends a line, and so does a carriage return with a newline behind it; a text that ends
with a newline has no further line.
-/

set_option autoImplicit false

namespace Kaleidoscope.Text

-- Only a newline makes the return in front of it part of the line's end; others stay in the line.
def withoutReturn (line : List Char) : List Char :=
  if line.getLast? = some '\r' then line.dropLast else line

def lines (text : List Char) : List (List Char) :=
  if text = [] then []
  else
    let line := text.takeWhile (· != '\n')
    match _found : text.dropWhile (· != '\n') with
    | [] => [line]
    | _ :: rest => withoutReturn line :: lines rest
termination_by text.length
decreasing_by
  have shorter : (text.dropWhile (· != '\n')).length ≤ text.length :=
    (List.dropWhile_sublist _).length_le
  rw [_found] at shorter
  exact shorter

-- Lines are counted from one, and a line that is not there is empty.
def line (text : String) (number : Nat) : String :=
  String.ofList ((lines text.toList)[number - 1]?.getD [])

end Kaleidoscope.Text
