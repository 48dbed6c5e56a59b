import Kaleidoscope.Text.Position

/-! A place in a text together with what is still to be read there. -/

set_option autoImplicit false

namespace Kaleidoscope

structure Cursor where
  position : Position
  rest : List Char
  deriving DecidableEq, Repr

namespace Cursor

def start (text : String) : Cursor := ⟨.start, text.toList⟩

def current? (cursor : Cursor) : Option Char := cursor.rest.head?

-- At the end there is nowhere to go.
def advance (cursor : Cursor) : Cursor :=
  match cursor.rest with
  | [] => cursor
  | char :: rest => ⟨cursor.position.step char, rest⟩

def skipWhile (keep : Char → Bool) (cursor : Cursor) : Cursor :=
  ⟨cursor.position.after (cursor.rest.takeWhile keep), cursor.rest.dropWhile keep⟩

end Cursor

end Kaleidoscope
