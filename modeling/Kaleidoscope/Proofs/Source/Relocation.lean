import Kaleidoscope.Proofs.Lexeme.Joined
import Kaleidoscope.Proofs.Machine.Relocation

/-! Sources with the same items in other places.

Main statement: where two sources yield the same items up to a change of their places, a machine says the
same of both, up to this change.
-/

set_option autoImplicit false

namespace Kaleidoscope

namespace Scan

def relocate (move : Position → Position) (scan : Scan) : Scan :=
  ⟨scan.items.map (Item.relocate move), move scan.ending⟩

theorem relocate_behind (move : Position → Position) (items : List Item) (scan : Scan) :
    (scan.behind items).relocate move =
      (scan.relocate move).behind (items.map (Item.relocate move)) := by
  simp [relocate, behind]

theorem untilError_relocate (move : Position → Position) (scan : Scan) :
    (scan.relocate move).untilError = scan.untilError.map (Item.relocate move) := by
  obtain ⟨items, ending⟩ := scan
  simp only [untilError, relocate]
  induction items with
  | nil => rfl
  | cons item rest ih =>
    cases item with
    | error => rfl
    | ok lexeme => exact congrArg (.ok (lexeme.relocate move) :: ·) ih

end Scan

namespace Source

variable {policy policy' : Policy} {source source' : String} {move : Position → Position}

theorem items_of_scan
    (same : (scan policy source).relocate move = (scan policy' source').relocate move) :
    (items policy source).map (Item.relocate move) =
      (items policy' source').map (Item.relocate move) := by
  unfold items
  rw [← Scan.untilError_relocate, ← Scan.untilError_relocate, same]

theorem read_of_items
    (same : (items policy source).map (Item.relocate move) =
      (items policy' source').map (Item.relocate move)) :
    (lexemes policy source).map (Lexeme.relocate move) =
      (lexemes policy' source').map (Lexeme.relocate move) ∧
    (last policy source).relocate move = (last policy' source').relocate move := by
  rw [items_eq, items_eq] at same
  apply Item.append_inj
  simpa [Item.relocate, Function.comp_def] using same

theorem judge_of_items {State Result : Type} (machine : Machine State Result) (state : State)
    (same : (items policy source).map (Item.relocate move) =
      (items policy' source').map (Item.relocate move)) :
    (machine.judge (last policy source) state (lexemes policy source)).mapError
        (ParseError.relocate move) =
      (machine.judge (last policy' source') state (lexemes policy' source')).mapError
        (ParseError.relocate move) := by
  obtain ⟨read, behind⟩ := read_of_items same
  rw [← machine.judge_relocate, ← machine.judge_relocate, read, behind]

theorem parse_of_items
    (same : (items policy source).map (Item.relocate move) =
      (items policy' source').map (Item.relocate move)) :
    (program policy source).mapError (ParseError.relocate move) =
        (program policy' source').mapError (ParseError.relocate move) ∧
      (definition policy source).mapError (ParseError.relocate move) =
        (definition policy' source').mapError (ParseError.relocate move) := by
  rw [program_eq, program_eq, definition_eq, definition_eq]
  exact ⟨judge_of_items _ _ same, judge_of_items _ _ same⟩

end Source

end Kaleidoscope
