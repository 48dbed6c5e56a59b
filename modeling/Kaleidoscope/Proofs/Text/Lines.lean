import Kaleidoscope.Text.Lines
import Mathlib.Data.List.DropRight

/-! Lines by what stands around them.

Main statement: the line with the number that is counted up to a place is the line across this place,
also behind the last newline and in an empty text.
-/

set_option autoImplicit false

namespace Kaleidoscope.Text

/-- What stands in front of a place on its line. -/
def lineBefore (before : List Char) : List Char :=
  before.rtakeWhile (· != '\n')

/-- What stands around a place between the newlines next to it; where there is one behind it, a return
in front of that newline does not belong to the line. -/
def lineAcross (before rest : List Char) : List Char :=
  let line := lineBefore before ++ rest.takeWhile (· != '\n')
  if '\n' ∈ rest then withoutReturn line else line

section
variable {α : Type} [BEq α] [LawfulBEq α] {separator : α} {run : List α}

theorem bne_of_notMem (absent : separator ∉ run) :
    ∀ member ∈ run, (member != separator) = true := by
  intro member found
  rw [bne_iff_ne]
  rintro rfl
  exact absent found

theorem takeWhile_separator (absent : separator ∉ run) (rest : List α) :
    (run ++ separator :: rest).takeWhile (· != separator) = run := by
  rw [List.takeWhile_append_of_pos (bne_of_notMem absent)]
  simp

theorem dropWhile_separator (absent : separator ∉ run) (rest : List α) :
    (run ++ separator :: rest).dropWhile (· != separator) = separator :: rest := by
  rw [List.dropWhile_append_of_pos (bne_of_notMem absent)]
  simp

-- A text is taken run by run, each with the separator behind it; only the last run has none.
@[elab_as_elim]
theorem induction_separator (separator : α) {motive : List α → Prop}
    (last : ∀ run, separator ∉ run → motive run)
    (more : ∀ run rest, separator ∉ run → motive rest → motive (run ++ separator :: rest))
    (text : List α) : motive text := by
  induction counted : text.count separator generalizing text with
  | zero => exact last text (List.count_eq_zero.mp counted)
  | succ count ih =>
    have member : separator ∈ text := List.count_pos_iff.mp (by omega)
    obtain ⟨run, rest, rfl, absent⟩ := List.eq_append_cons_of_mem member
    rw [List.count_append, List.count_eq_zero.mpr absent, List.count_cons_self] at counted
    have fewer : rest.count separator = count := by omega
    exact more run rest absent (ih rest fewer)

end

theorem lineBefore_newline (line rest : List Char) :
    lineBefore (line ++ '\n' :: rest) = lineBefore rest := by
  unfold lineBefore
  induction rest using List.reverseRecOn with
  | nil => simp
  | append_singleton rest char ih =>
    rw [← List.cons_append, ← List.append_assoc, List.rtakeWhile_concat, List.rtakeWhile_concat, ih]

theorem lines_nil : lines [] = [] := by
  rw [lines, if_pos rfl]

theorem lines_append_newline {line : List Char} (single : '\n' ∉ line) (rest : List Char) :
    lines (line ++ '\n' :: rest) = withoutReturn line :: lines rest := by
  rw [lines, if_neg (by simp)]
  split
  · next ended => simp [dropWhile_separator single] at ended
  · next char others behind =>
    rw [dropWhile_separator single] at behind
    rw [takeWhile_separator single, (List.cons.inj behind).2]

theorem lines_of_notMem {line : List Char} (single : '\n' ∉ line) (nonempty : line ≠ []) :
    lines line = [line] := by
  have kept := bne_of_notMem single
  rw [lines, if_neg nonempty]
  split
  · rw [List.takeWhile_eq_self_iff.mpr kept]
  · next behind => simp [List.dropWhile_eq_nil_iff.mpr kept] at behind

theorem getElem?_zero_lines {before : List Char} (single : '\n' ∉ before) (rest : List Char) :
    (lines (before ++ rest))[0]?.getD [] = lineAcross before rest := by
  have whole : lineBefore before = before :=
    List.rtakeWhile_eq_self_iff.mpr (bne_of_notMem single)
  unfold lineAcross
  rw [whole]
  by_cases ended : '\n' ∈ rest
  · obtain ⟨line, others, rfl, within⟩ := List.eq_append_cons_of_mem ended
    have first : '\n' ∉ before ++ line := by simp [single, within]
    rw [← List.append_assoc, lines_append_newline first, if_pos ended, takeWhile_separator within]
    rfl
  · have only : '\n' ∉ before ++ rest := by simp [single, ended]
    rw [if_neg ended, List.takeWhile_eq_self_iff.mpr (bne_of_notMem ended)]
    by_cases empty : before ++ rest = []
    · rw [empty, lines_nil]
      rfl
    · rw [lines_of_notMem only empty]
      rfl

theorem getElem?_lines (before rest : List Char) :
    (lines (before ++ rest))[before.count '\n']?.getD [] = lineAcross before rest := by
  -- The induction is on the lines in front of the place, of which each but its own is counted.
  induction before using induction_separator '\n' with
  | last line single =>
    rw [List.count_eq_zero.mpr single]
    exact getElem?_zero_lines single rest
  | more line others single ih =>
    have counted : (line ++ '\n' :: others).count '\n' = others.count '\n' + 1 := by
      rw [List.count_append, List.count_eq_zero.mpr single, List.count_cons_self, Nat.zero_add]
    have across : lineAcross (line ++ '\n' :: others) rest = lineAcross others rest := by
      simp only [lineAcross, lineBefore_newline]
    rw [counted, List.append_assoc, List.cons_append, lines_append_newline single,
      List.getElem?_cons_succ, across]
    exact ih

theorem withoutReturn_append {char : Char} (notReturn : char ≠ '\r') (before behind : List Char) :
    withoutReturn (before ++ char :: behind) = before ++ char :: withoutReturn behind := by
  unfold withoutReturn
  cases behind with
  | nil => simp [notReturn]
  | cons next behind =>
    have last : (before ++ char :: next :: behind).getLast? = (next :: behind).getLast? := by
      rw [List.getLast?_append_of_ne_nil _ (by simp), List.getLast?_cons_cons]
    have shorter : (before ++ char :: next :: behind).dropLast =
        before ++ char :: (next :: behind).dropLast := by
      rw [List.dropLast_append_of_ne_nil (by simp), List.dropLast_cons_of_ne_nil (by simp)]
    rw [last, shorter]
    split <;> rfl

theorem withoutReturn_subset (line : List Char) : withoutReturn line ⊆ line := by
  unfold withoutReturn
  split
  · exact List.dropLast_subset line
  · exact List.Subset.refl line

theorem newline_notMem_lineAcross (before rest : List Char) : '\n' ∉ lineAcross before rest := by
  have single : '\n' ∉ lineBefore before ++ rest.takeWhile (· != '\n') := by
    intro member
    rcases List.mem_append.mp member with member | member
    · exact absurd (List.mem_rtakeWhile_imp member) (by decide)
    · exact absurd (List.mem_takeWhile_imp member) (by decide)
  unfold lineAcross
  split
  · exact fun member => single (withoutReturn_subset _ member)
  · exact single

theorem exists_lineAcross_eq (before : List Char) {rest : List Char}
    (inner : ∀ char ∈ rest.head?, char ≠ '\n' ∧ char ≠ '\r') :
    ∃ behind, lineAcross before rest = lineBefore before ++ behind ∧
      behind.head? = rest.head? := by
  cases rest with
  | nil => exact ⟨[], by simp [lineAcross], rfl⟩
  | cons char rest =>
    obtain ⟨notNewline, notReturn⟩ := inner char rfl
    have taken : (char :: rest).takeWhile (· != '\n') = char :: rest.takeWhile (· != '\n') :=
      List.takeWhile_cons_of_pos (bne_iff_ne.mpr notNewline)
    unfold lineAcross
    rw [taken]
    split
    · exact ⟨_, withoutReturn_append notReturn _ _, rfl⟩
    · exact ⟨_, rfl, rfl⟩

end Kaleidoscope.Text
