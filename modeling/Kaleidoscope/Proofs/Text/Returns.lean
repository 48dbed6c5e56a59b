import Kaleidoscope.Proofs.Text.Lines
import Kaleidoscope.Proofs.Text.Places

/-! Lines that end with a return and a newline.

Main statements: a text without returns has the same lines with a return in front of each newline, and
runs of characters that do not end lines are found in it where they were.
-/

set_option autoImplicit false

namespace Kaleidoscope.Text

/-- The text with a return in front of each newline. -/
def returned (text : List Char) : List Char :=
  text.flatMap fun char => if char = '\n' then ['\r', '\n'] else [char]

def withReturns (text : String) : String := String.ofList (returned text.toList)

@[simp] theorem toList_withReturns (text : String) :
    (withReturns text).toList = returned text.toList :=
  String.toList_ofList

@[simp] theorem returned_nil : returned [] = [] := rfl

@[simp] theorem returned_newline (rest : List Char) :
    returned ('\n' :: rest) = '\r' :: '\n' :: returned rest := rfl

theorem returned_cons {char : Char} (inner : char ≠ '\n') (rest : List Char) :
    returned (char :: rest) = char :: returned rest := by
  simp [returned, inner]

theorem returned_append (first second : List Char) :
    returned (first ++ second) = returned first ++ returned second :=
  List.flatMap_append

theorem returned_of_notMem {line : List Char} (single : '\n' ∉ line) : returned line = line := by
  induction line with
  | nil => rfl
  | cons char rest ih =>
    rw [List.mem_cons, not_or] at single
    rw [returned_cons (Ne.symm single.1), ih single.2]

theorem withoutReturn_of_notMem {line : List Char} (plain : '\r' ∉ line) :
    withoutReturn line = line :=
  if_neg fun last => plain (List.mem_of_getLast? last)

theorem withoutReturn_concat (line : List Char) : withoutReturn (line ++ ['\r']) = line := by
  simp [withoutReturn]

theorem lines_returned {text : List Char} (plain : '\r' ∉ text) :
    lines (returned text) = lines text := by
  induction text using induction_separator '\n' with
  | last line single => rw [returned_of_notMem single]
  | more line rest single ih =>
    simp only [List.mem_append, List.mem_cons, not_or] at plain
    obtain ⟨plainLine, -, plainRest⟩ := plain
    -- The return in front of the newline belongs to the end of the line.
    have closed : '\n' ∉ line ++ ['\r'] := by simp [single]
    have parted : returned (line ++ '\n' :: rest) = (line ++ ['\r']) ++ '\n' :: returned rest := by
      rw [returned_append, returned_of_notMem single, returned_newline]
      simp
    rw [parted, lines_append_newline closed, lines_append_newline single, withoutReturn_concat,
      withoutReturn_of_notMem plainLine, ih plainRest]

theorem line_withReturns {text : String} (plain : '\r' ∉ text.toList) (number : Nat) :
    line (withReturns text) number = line text number := by
  unfold line
  rw [toList_withReturns, lines_returned plain]

section
variable {keep : Char → Bool}

theorem takeWhile_returned (noNewline : keep '\n' = false) (noReturn : keep '\r' = false)
    (text : List Char) : (returned text).takeWhile keep = text.takeWhile keep := by
  induction text with
  | nil => rfl
  | cons char rest ih =>
    by_cases newline : char = '\n'
    · subst newline
      simp [noNewline, noReturn]
    · rw [returned_cons newline, List.takeWhile_cons, List.takeWhile_cons, ih]

theorem dropWhile_returned (noNewline : keep '\n' = false) (noReturn : keep '\r' = false)
    (text : List Char) : (returned text).dropWhile keep = returned (text.dropWhile keep) := by
  induction text with
  | nil => rfl
  | cons char rest ih =>
    by_cases newline : char = '\n'
    · subst newline
      simp [noNewline, noReturn]
    · rw [returned_cons newline, List.dropWhile_cons, List.dropWhile_cons, ih]
      split
      · rfl
      · rw [returned_cons newline]

end

end Kaleidoscope.Text

namespace Kaleidoscope.Position

-- A return stands on the line that the newline behind it ends.
theorem withoutOffset_step_return {first second : Position}
    (same : first.withoutOffset = second.withoutOffset) :
    ((first.step '\r').step '\n').withoutOffset = (second.step '\n').withoutOffset := by
  simp only [withoutOffset, mk.injEq, true_and] at same
  simp [withoutOffset, step, same.1]

end Kaleidoscope.Position
