import Kaleidoscope.Unicode.DefaultIgnorable
import Kaleidoscope.Unicode.ExtendingMark
import Kaleidoscope.Unicode.Printable

/-! Quoted strings and characters.

The backslash, the surrounding quote and four control characters have short escapes; every other
character that would not show on its own is written by its code point.
-/

set_option autoImplicit false

namespace Kaleidoscope.Text

/-- An extending mark would merge with the quote before it, and an ignorable character may be drawn
as nothing at all, even where it counts as a letter. -/
def showsAlone (char : Char) : Bool :=
  Unicode.isPrintable char && !Unicode.isExtendingMark char && !Unicode.isDefaultIgnorable char

def codePoint (char : Char) : List Char :=
  "\\u\x7b".toList ++ Nat.toDigits 16 char.toNat ++ ['\x7d']

def escape (quote char : Char) : List Char :=
  match char with
  | '\x00' => ['\\', '0']
  | '\t' => ['\\', 't']
  | '\r' => ['\\', 'r']
  | '\n' => ['\\', 'n']
  | '\\' => ['\\', '\\']
  | char =>
      if char = quote then ['\\', char]
      else if showsAlone char then [char]
      else codePoint char

def quotedString (text : String) : String :=
  String.ofList (['"'] ++ text.toList.flatMap (escape '"') ++ ['"'])

def quotedChar (char : Char) : String :=
  String.ofList (['\''] ++ escape '\'' char ++ ['\''])

end Kaleidoscope.Text
