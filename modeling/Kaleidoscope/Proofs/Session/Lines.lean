import Kaleidoscope.Proofs.Text.Lines
import Kaleidoscope.Session

/-! The lines of an input.

Main statement: where an input ends with a newline, the lines of what follows it are lines of their own.
-/

set_option autoImplicit false

namespace Kaleidoscope.Session

theorem lines_nil : lines [] = [] := by
  rw [lines, if_pos rfl]

section
variable {line : List UInt8}

theorem lines_append_newline (single : newline ∉ line) (rest : List UInt8) :
    lines (line ++ newline :: rest) = (line ++ [newline]) :: lines rest := by
  rw [lines, if_neg (by simp)]
  split
  · next ended => simp [Text.dropWhile_separator single] at ended
  · next byte others behind =>
    rw [Text.dropWhile_separator single] at behind
    rw [Text.takeWhile_separator single, (List.cons.inj behind).2]

theorem lines_of_notMem (single : newline ∉ line) (nonempty : line ≠ []) : lines line = [line] := by
  have kept := Text.bne_of_notMem single
  rw [lines, if_neg nonempty]
  split
  · rfl
  · next behind => simp [List.dropWhile_eq_nil_iff.mpr kept] at behind

end

/-- Every line of the input has its newline. -/
inductive Ended : List UInt8 → Prop where
  | nil : Ended []
  | line {line rest : List UInt8} : newline ∉ line → Ended rest → Ended (line ++ newline :: rest)

theorem exists_ended (input : List UInt8) :
    ∃ front line, input = front ++ line ∧ Ended front ∧ newline ∉ line := by
  induction input using Text.induction_separator newline with
  | last line single => exact ⟨[], line, rfl, .nil, single⟩
  | more line others single ih =>
    obtain ⟨front, last, rfl, ended, alone⟩ := ih
    exact ⟨line ++ newline :: front, last, by simp, .line single ended, alone⟩

theorem ended_iff {input : List UInt8} :
    Ended input ↔ input = [] ∨ input.getLast? = some newline := by
  constructor
  · intro ended
    induction ended with
    | nil => exact .inl rfl
    | line _ _ ih =>
      right
      rcases ih with rfl | last
      · simp
      · simp [List.getLast?_cons, last]
  · intro ends
    obtain ⟨front, line, rfl, ended, single⟩ := exists_ended input
    rcases line.eq_nil_or_concat with rfl | ⟨before, byte, rfl⟩
    · rwa [List.append_nil]
    · simp_all

theorem lines_append {first : List UInt8} (ended : Ended first) (second : List UInt8) :
    lines (first ++ second) = lines first ++ lines second := by
  induction ended with
  | nil => rw [lines_nil, List.nil_append, List.nil_append]
  | line single _ ih =>
    rw [List.append_assoc, List.cons_append, lines_append_newline single,
      lines_append_newline single, ih, List.cons_append]

end Kaleidoscope.Session
