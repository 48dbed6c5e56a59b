import Kaleidoscope.ParseError
import Kaleidoscope.ParseError.Excerpt

/-! Messages that fit on a line.

A character is quoted in a message so that it cannot end its line, and nothing else in a message could
do so but the text of a malformed number.

Main statement: an error is shown on three lines if its text and the line it is about are lines.
-/

set_option autoImplicit false

namespace Kaleidoscope

namespace Text

def OneLine (text : String) : Prop := '\n' ∉ text.toList

instance (text : String) : Decidable (OneLine text) :=
  inferInstanceAs (Decidable ('\n' ∉ text.toList))

theorem OneLine.append {first second : String} (left : OneLine first) (right : OneLine second) :
    OneLine (first ++ second) := by
  unfold OneLine
  rw [String.toList_append, List.mem_append, not_or]
  exact ⟨left, right⟩

theorem digitChar_ne_newline : ∀ digit < 16, Nat.digitChar digit ≠ '\n' := by
  decide

theorem newline_notMem_toDigits {base : Nat} (many : 1 < base) (few : base ≤ 16) (value : Nat) :
    '\n' ∉ Nat.toDigits base value := by
  -- The induction follows the digits from the last one to the first.
  induction value using Nat.strongRecOn with
  | _ value ih =>
    rw [Nat.toDigits_eq_if many]
    split
    · next small =>
      rw [List.mem_singleton]
      exact (digitChar_ne_newline value (by omega)).symm
    · have shorter : value / base < value := Nat.div_lt_self (by omega) many
      have digit : value % base < base := Nat.mod_lt _ (by omega)
      rw [List.mem_append, List.mem_singleton, not_or]
      exact ⟨ih _ shorter, (digitChar_ne_newline _ (by omega)).symm⟩

theorem oneLine_toString (value : Nat) : OneLine (toString value) := by
  unfold OneLine
  rw [Nat.toString_eq_repr, Nat.toList_repr]
  exact newline_notMem_toDigits (by decide) (by decide) value

theorem newline_notMem_codePoint (char : Char) : '\n' ∉ codePoint char := by
  have digits : '\n' ∉ Nat.toDigits 16 char.toNat :=
    newline_notMem_toDigits (by decide) (by decide) char.toNat
  simp [codePoint, digits]

theorem newline_notMem_escape {quote : Char} (other : quote ≠ '\n') (char : Char) :
    '\n' ∉ escape quote char := by
  unfold escape
  split
  case h_6 newline _ =>
    split
    · next same => simp [same, other.symm]
    · split
      · simpa using Ne.symm newline
      · exact newline_notMem_codePoint char
  all_goals decide

theorem oneLine_quotedChar (char : Char) : OneLine (quotedChar char) := by
  have escaped : '\n' ∉ escape '\'' char := newline_notMem_escape (by decide) char
  simp [OneLine, quotedChar, escaped]

end Text

open Text (OneLine)

theorem Position.oneLine_text (position : Position) : OneLine position.text :=
  ((Text.oneLine_toString _).append (by decide)).append (Text.oneLine_toString _)

theorem Token.Kind.oneLine_text (kind : Token.Kind) : OneLine kind.text := by
  cases kind <;> decide

theorem LexicalError.oneLine_message {error : LexicalError}
    (text : ∀ run position, error = .malformedNumber run position → OneLine run) :
    OneLine error.message := by
  cases error with
  | unknownCharacter char position =>
    exact (position.oneLine_text.append (by decide)).append (Text.oneLine_quotedChar char)
  | malformedNumber run position =>
    have front : OneLine (position.text ++ ": malformed number literal '") :=
      position.oneLine_text.append (by decide)
    exact (front.append (text run position rfl)).append (by decide)

namespace ParseError

variable {error : ParseError}

theorem oneLine_message
    (text : ∀ run position, error = .lexical (.malformedNumber run position) → OneLine run) :
    OneLine error.message := by
  cases error with
  | lexical error =>
    exact LexicalError.oneLine_message fun run position same => text run position (congrArg _ same)
  | unexpected found expected position =>
    cases expected with
    | factor => exact (position.oneLine_text.append (by decide)).append found.oneLine_text
    | kind expected =>
      have front : OneLine (position.text ++ ": unexpected token " ++ found.text) :=
        (position.oneLine_text.append (by decide)).append found.oneLine_text
      exact (front.append (by decide)).append expected.oneLine_text

/-- The excerpt has three lines if none of its parts has more than one. -/
theorem splitOn_excerpt {source : String} (message : OneLine error.message)
    (line : OneLine (Text.line source error.position.line)) :
    (error.excerpt source).toList.splitOn '\n' =
      ["error: ".toList ++ error.message.toList,
        "  ".toList ++ (Text.line source error.position.line).toList,
        "  ".toList ++ List.replicate (error.position.column - 1) ' ' ++ ['^']] := by
  have joined : (error.excerpt source).toList = ['\n'].intercalate
      ["error: ".toList ++ error.message.toList,
        "  ".toList ++ (Text.line source error.position.line).toList,
        "  ".toList ++ List.replicate (error.position.column - 1) ' ' ++ ['^']] := by
    simp [excerpt, caret, List.intercalate]
  rw [joined, List.splitOn_intercalate _ _ (by simp)]
  intro part member
  simp only [List.mem_cons, List.not_mem_nil, or_false] at member
  rcases member with rfl | rfl | rfl
  · simpa [OneLine] using message
  · simpa [OneLine] using line
  · simp

end ParseError

end Kaleidoscope
