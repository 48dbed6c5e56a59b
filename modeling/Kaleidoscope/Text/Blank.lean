import Kaleidoscope.Unicode.WhiteSpace

/-! Blanks at the end of a text.

Main statement: what is trimmed is all the blanks at the end and nothing else.
-/

set_option autoImplicit false

namespace Kaleidoscope.Text

def trimEnd (text : String) : String :=
  String.ofList (text.toList.reverse.dropWhile Unicode.isWhiteSpace).reverse

theorem exists_trimEnd_append (text : String) :
    ∃ blanks : List Char, text = trimEnd text ++ String.ofList blanks ∧
      (∀ char ∈ blanks, Unicode.isWhiteSpace char = true) ∧
      ∀ char ∈ (trimEnd text).toList.getLast?, Unicode.isWhiteSpace char = false := by
  have parted := List.takeWhile_append_dropWhile (p := Unicode.isWhiteSpace)
    (l := text.toList.reverse)
  have stopped := List.head?_dropWhile_not Unicode.isWhiteSpace text.toList.reverse
  refine ⟨(text.toList.reverse.takeWhile Unicode.isWhiteSpace).reverse, ?_, ?_, ?_⟩
  · rw [trimEnd, ← String.ofList_append, ← List.reverse_append, parted, List.reverse_reverse,
      String.ofList_toList]
  · intro char member
    exact List.all_eq_true.mp List.all_takeWhile char (List.mem_reverse.mp member)
  · intro char last
    rw [trimEnd, String.toList_ofList, List.getLast?_reverse] at last
    rw [Option.mem_def.mp last] at stopped
    exact stopped

end Kaleidoscope.Text
