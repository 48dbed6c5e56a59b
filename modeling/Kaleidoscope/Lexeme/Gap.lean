import Kaleidoscope.Lexeme.Cursor
import Kaleidoscope.Token
import Kaleidoscope.Unicode.Classes

/-! What stands between lexemes: white space, comments and, where the policy allows it, characters
outside the language.

Main statement: a gap never reads past the text, and nothing is left of a gap behind it.
-/

set_option autoImplicit false

namespace Kaleidoscope

/-- What becomes of characters outside the language. -/
inductive Policy where
  | reject
  | skip
  deriving DecidableEq, Repr

def Policy.name : Policy → String
  | .reject => "Reject"
  | .skip => "Skip"

namespace Lexeme

def isWordStart (char : Char) : Bool := Unicode.isAlphabetic char || char = '_'

def isWordPart (char : Char) : Bool := Unicode.isAlphanumeric char || char = '_'

theorem isWordPart_of_isWordStart {char : Char} (first : isWordStart char = true) :
    isWordPart char = true := by
  simp only [isWordStart, isWordPart, Unicode.isAlphanumeric, Bool.or_eq_true] at first ⊢
  exact first.imp_left .inl

-- Other decimal digits than those of ASCII spell no numbers.
def isNumberPart (char : Char) : Bool := char.isDigit || char = '.'

def startsLexeme (char : Char) : Bool :=
  isWordStart char || isNumberPart char || (Token.ofMark? char).isSome

-- A comment leaves its newline to the white space behind it, which is skipped all the same.
/-- Whether a character belongs to a gap, and if so, whether the text behind it is in a comment. -/
def gapStep (policy : Policy) (comment : Bool) (char : Char) : Option Bool :=
  if comment then some (char != '\n')
  else if Unicode.isWhiteSpace char then some false
  else if char = '#' then some true
  else if policy = .skip && !startsLexeme char then some false
  else none

end Lexeme

namespace Cursor

/-- Move behind a gap whose comment, if it has begun, is still open. -/
def skipGapFrom (policy : Policy) (comment : Bool) (position : Position) : List Char → Cursor
  | [] => ⟨position, []⟩
  | char :: rest =>
      match Lexeme.gapStep policy comment char with
      | some comment => skipGapFrom policy comment (position.step char) rest
      | none => ⟨position, char :: rest⟩

def skipGap (policy : Policy) (cursor : Cursor) : Cursor :=
  skipGapFrom policy false cursor.position cursor.rest

theorem skipGapFrom_length_le (policy : Policy) (comment : Bool) (position : Position)
    (text : List Char) : (skipGapFrom policy comment position text).rest.length ≤ text.length := by
  induction text generalizing comment position with
  | nil => simp [skipGapFrom]
  | cons char rest ih =>
    simp only [skipGapFrom]
    split
    · exact Nat.le_succ_of_le (ih _ _)
    · exact Nat.le_refl _

theorem skipGap_length_le (policy : Policy) (cursor : Cursor) :
    (cursor.skipGap policy).rest.length ≤ cursor.rest.length :=
  skipGapFrom_length_le ..

theorem skipGap_of_skipGapFrom (policy : Policy) (comment : Bool) (position : Position)
    (text : List Char) :
    (skipGapFrom policy comment position text).skipGap policy =
      skipGapFrom policy comment position text := by
  induction text generalizing comment position with
  | nil => rfl
  | cons char rest ih =>
    cases step : Lexeme.gapStep policy comment char with
    | some inside => simpa [skipGapFrom, step] using ih inside (position.step char)
    | none =>
      cases comment with
      | true => simp [Lexeme.gapStep] at step
      | false => simp [skipGapFrom, skipGap, step]

@[simp] theorem skipGap_skipGap (policy : Policy) (cursor : Cursor) :
    (cursor.skipGap policy).skipGap policy = cursor.skipGap policy :=
  skipGap_of_skipGapFrom ..

end Cursor

end Kaleidoscope
