import Kaleidoscope.ParseError
import Kaleidoscope.Text.Lines

/-! Errors shown in their source text. -/

set_option autoImplicit false

namespace Kaleidoscope.ParseError

def caret (column : Nat) : String :=
  String.ofList (List.replicate (column - 1) ' ' ++ ['^'])

-- The message, the line it is about, and a caret under the column.
def excerpt (error : ParseError) (source : String) : String :=
  "error: " ++ error.message ++ "\n  " ++ Text.line source error.position.line ++ "\n  " ++
    caret error.position.column

end Kaleidoscope.ParseError
