import Kaleidoscope.Text.Position
import Mathlib.Data.List.DropRight

/-! Places, counted directly and moved.

Main statements: the place behind a text can be counted in the text alone, and a text that stands behind
other lines has the same places, moved by the bytes and lines in front of it.
-/

set_option autoImplicit false

namespace Kaleidoscope.Position

/-- The place behind the beginning of a source: its bytes, its newlines and the characters behind the
last of them. -/
def behind (text : String) : Position where
  offset := text.utf8ByteSize
  line := 1 + text.toList.count '\n'
  column := 1 + (text.toList.rtakeWhile (· != '\n')).length

theorem after_concat (position : Position) (text : List Char) (char : Char) :
    position.after (text ++ [char]) = (position.after text).step char := by
  rw [after_append, after_cons, after_nil]

theorem behind_push (text : String) (char : Char) :
    behind (text.push char) = (behind text).step char := by
  by_cases newline : char = '\n'
  · subst newline
    simp only [behind, step, String.utf8ByteSize_push, String.toList_push, List.rtakeWhile_concat,
      if_true]
    simp [Nat.add_assoc]
  · simp only [behind, step, String.utf8ByteSize_push, String.toList_push, newline, if_false,
      List.count_append, List.rtakeWhile_concat]
    simp [newline, Nat.add_assoc]

theorem after_start (text : String) : start.after text.toList = behind text := by
  suffices counted : ∀ chars : List Char, start.after chars = behind (String.ofList chars) by
    simpa using counted text.toList
  intro chars
  induction chars using List.reverseRecOn with
  | nil => rfl
  | append_singleton chars char ih =>
    rw [after_concat, ih, ← behind_push]
    simp

theorem behind_append (first : String) (second : List Char) :
    behind (first ++ String.ofList second) = (behind first).after second := by
  rw [← after_start, ← after_start, String.toList_append, String.toList_ofList, after_append]

theorem length_le_utf8ByteSize (text : String) : text.toList.length ≤ text.utf8ByteSize := by
  suffices counted : ∀ chars : List Char, chars.length ≤ (String.ofList chars).utf8ByteSize by
    simpa using counted text.toList
  intro chars
  induction chars with
  | nil => exact Nat.zero_le _
  | cons char chars ih =>
    have positive := char.utf8Size_pos
    rw [String.ofList_cons, String.utf8ByteSize_append, String.utf8ByteSize_singleton,
      List.length_cons]
    omega

theorem behind_le (text : String) : (behind text).line ≤ text.utf8ByteSize + 1 ∧
    (behind text).column ≤ text.utf8ByteSize + 1 := by
  -- Every line and every column takes a byte.
  have bytes := length_le_utf8ByteSize text
  have newlines : text.toList.count '\n' ≤ text.toList.length := List.count_le_length
  have columns := (List.rtakeWhile_suffix (· != '\n') text.toList).length_le
  constructor
  · simp only [behind]
    omega
  · simp only [behind]
    omega

theorem offset_after (position : Position) (text : List Char) :
    (position.after text).offset = position.offset + (String.ofList text).utf8ByteSize := by
  induction text generalizing position with
  | nil => rfl
  | cons char rest ih =>
    rw [after_cons, ih, String.ofList_cons, String.utf8ByteSize_append, String.utf8ByteSize_singleton]
    exact Nat.add_assoc ..

theorem offset_add_length_le (position : Position) (text : List Char) :
    position.offset + text.length ≤ (position.after text).offset := by
  have bytes := length_le_utf8ByteSize (String.ofList text)
  rw [String.toList_ofList] at bytes
  rw [offset_after]
  exact Nat.add_le_add_left bytes _

theorem offset_le_after (position : Position) (text : List Char) :
    position.offset ≤ (position.after text).offset :=
  Nat.le_trans (Nat.le_add_right ..) (position.offset_add_length_le text)

/-- The place with more bytes and lines in front of it; its line begins where it did. -/
def move (bytes lines : Nat) (position : Position) : Position where
  offset := position.offset + bytes
  line := position.line + lines
  column := position.column

theorem step_move (bytes lines : Nat) (position : Position) (char : Char) :
    (position.move bytes lines).step char = (position.step char).move bytes lines := by
  simp only [step, move, mk.injEq, and_true]
  refine ⟨Nat.add_right_comm .., ?_⟩
  split
  · exact Nat.add_right_comm ..
  · rfl

theorem after_move (bytes lines : Nat) (position : Position) (text : List Char) :
    (position.move bytes lines).after text = (position.after text).move bytes lines := by
  induction text generalizing position with
  | nil => rfl
  | cons char rest ih => rw [after_cons, after_cons, step_move, ih]

theorem behind_step_newline (text : String) :
    (behind text).step '\n' = start.move (text.utf8ByteSize + 1) (1 + text.toList.count '\n') := by
  have size : '\n'.utf8Size = 1 := by decide
  simp [behind, step, start, move, size, Nat.add_comm]

def withoutOffset (position : Position) : Position := { position with offset := 0 }

theorem withoutOffset_step {first second : Position}
    (same : first.withoutOffset = second.withoutOffset) {char other : Char}
    (newline : char = '\n' ↔ other = '\n') :
    (first.step char).withoutOffset = (second.step other).withoutOffset := by
  simp only [withoutOffset, mk.injEq, true_and] at same
  simp only [withoutOffset, step, same, newline]

theorem withoutOffset_after {first second : Position}
    (same : first.withoutOffset = second.withoutOffset) (text : List Char) :
    (first.after text).withoutOffset = (second.after text).withoutOffset := by
  induction text generalizing first second with
  | nil => exact same
  | cons char rest ih => exact ih (withoutOffset_step same Iff.rfl)

end Kaleidoscope.Position
