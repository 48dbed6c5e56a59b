/-! Places in a source text.

Main statement: the place behind two texts is the place behind the second, counted from the place
behind the first.
-/

set_option autoImplicit false

namespace Kaleidoscope

/-- The offset counts bytes of the encoded text from zero, line and column count from one; columns
count characters. -/
structure Position where
  offset : Nat
  line : Nat
  column : Nat
  deriving DecidableEq, Repr

namespace Position

def start : Position := ⟨0, 1, 1⟩

def step (position : Position) (char : Char) : Position where
  offset := position.offset + char.utf8Size
  line := if char = '\n' then position.line + 1 else position.line
  column := if char = '\n' then 1 else position.column + 1

def after (position : Position) (text : List Char) : Position :=
  text.foldl step position

@[simp] theorem after_nil (position : Position) : position.after [] = position := rfl

@[simp] theorem after_cons (position : Position) (char : Char) (text : List Char) :
    position.after (char :: text) = (position.step char).after text := rfl

theorem after_append (position : Position) (first second : List Char) :
    position.after (first ++ second) = (position.after first).after second :=
  List.foldl_append

def text (position : Position) : String :=
  toString position.line ++ ":" ++ toString position.column

end Position

end Kaleidoscope
