import Kaleidoscope.Lexeme
import Kaleidoscope.Lexeme.Gap
import Kaleidoscope.Text.Lines

/-! Reading one lexeme where a gap has ended.

Words and numbers are read as far as they go, marks are single characters.

Main statement: what is read is never empty, also when it is no lexeme.
-/

set_option autoImplicit false

namespace Kaleidoscope

abbrev Item := Except LexicalError Lexeme

namespace Cursor

def word (cursor : Cursor) : Item :=
  let word := String.ofList (cursor.rest.takeWhile Lexeme.isWordPart)
  .ok ⟨.ofWord word, word, cursor.position⟩

def number (cursor : Cursor) : Item :=
  let literal := cursor.rest.takeWhile Lexeme.isNumberPart
  match Binary64.ofLiteral? literal with
  | some value => .ok ⟨.number value, String.ofList literal, cursor.position⟩
  | none => .error (.malformedNumber (String.ofList literal) cursor.position)

def mark (cursor : Cursor) (char : Char) : Item :=
  match Token.ofMark? char with
  | some token => .ok ⟨token, char.toString, cursor.position⟩
  | none => .error (.unknownCharacter char cursor.position)

/-- The item at the cursor and the cursor behind it; there is none at the end of the text. -/
def read? (cursor : Cursor) : Option (Item × Cursor) :=
  match cursor.rest with
  | [] => none
  | char :: _ =>
      if Lexeme.isWordStart char then some (cursor.word, cursor.skipWhile Lexeme.isWordPart)
      else if Lexeme.isNumberPart char then
        some (cursor.number, cursor.skipWhile Lexeme.isNumberPart)
      else some (cursor.mark char, cursor.advance)

theorem skipWhile_length_lt {cursor : Cursor} {keep : Char → Bool} {char : Char} {rest : List Char}
    (begun : cursor.rest = char :: rest) (kept : keep char = true) :
    (cursor.skipWhile keep).rest.length < (char :: rest).length := by
  have shorter : (rest.dropWhile keep).length ≤ rest.length := (List.dropWhile_sublist _).length_le
  simpa [skipWhile, begun, kept] using Nat.lt_succ_of_le shorter

/-- What is read in front of a character: a word if one begins there, else a run of digits and points,
else the character by itself. -/
inductive Reads (cursor : Cursor) (char : Char) : Item → Cursor → Prop where
  | word : Lexeme.isWordStart char = true →
      Reads cursor char cursor.word (cursor.skipWhile Lexeme.isWordPart)
  | number : Lexeme.isWordStart char = false → Lexeme.isNumberPart char = true →
      Reads cursor char cursor.number (cursor.skipWhile Lexeme.isNumberPart)
  | mark : Lexeme.isWordStart char = false → Lexeme.isNumberPart char = false →
      Reads cursor char (cursor.mark char) cursor.advance

theorem read?_eq_some_iff {cursor next : Cursor} {item : Item} :
    cursor.read? = some (item, next) ↔
      ∃ char rest, cursor.rest = char :: rest ∧ cursor.Reads char item next := by
  unfold read?
  constructor
  · intro found
    split at found
    · simp at found
    · next char rest same =>
      refine ⟨char, rest, same, ?_⟩
      split at found
      · next first =>
        obtain ⟨rfl, rfl⟩ := by simpa using found
        exact .word first
      · next noWord =>
        rw [Bool.not_eq_true] at noWord
        split at found
        · next part =>
          obtain ⟨rfl, rfl⟩ := by simpa using found
          exact .number noWord part
        · next noNumber =>
          rw [Bool.not_eq_true] at noNumber
          obtain ⟨rfl, rfl⟩ := by simpa using found
          exact .mark noWord noNumber
  · rintro ⟨char, rest, same, reads⟩
    rw [same]
    cases reads with
    | word first => simp [first]
    | number noWord part => simp [noWord, part]
    | mark noWord noNumber => simp [noWord, noNumber]

theorem read?_length_lt {cursor next : Cursor} {item : Item}
    (found : cursor.read? = some (item, next)) : next.rest.length < cursor.rest.length := by
  obtain ⟨char, rest, same, reads⟩ := read?_eq_some_iff.mp found
  rw [same]
  cases reads with
  | word first => exact skipWhile_length_lt same (Lexeme.isWordPart_of_isWordStart first)
  | number _ part => exact skipWhile_length_lt same part
  | mark => simp [advance, same]

theorem read?_eq_none_iff {cursor : Cursor} : cursor.read? = none ↔ cursor.rest = [] := by
  obtain ⟨position, rest⟩ := cursor
  cases rest with
  | nil => simp [read?]
  | cons char rest =>
    simp only [read?]
    split
    · simp
    · split <;> simp

end Cursor

end Kaleidoscope
