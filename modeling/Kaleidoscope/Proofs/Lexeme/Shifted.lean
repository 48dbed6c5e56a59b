import Kaleidoscope.Proofs.Lexeme.Renamed
import Mathlib.Algebra.Ring.Int.Defs

/-! Where the items of a renamed text stand.

Renaming makes lexemes longer or shorter, which moves what stands behind them on the same line. A newline
puts an end to this.

Main statement: the renamed text has the renamed items on the same lines. Columns move by what the items
in front of them on their line have gained, and offsets by what all items in front of them have.
-/

set_option autoImplicit false

namespace Kaleidoscope

variable (image : String → String)

namespace Item

def growth (item : Item) : Int := (item.rename image).text.length - item.text.length

def byteGrowth (item : Item) : Int := (item.rename image).text.utf8ByteSize - item.text.utf8ByteSize

/-- How many characters the items on a line gain together. -/
def growthOn (items : List Item) (line : Nat) : Int :=
  ((items.filter (·.position.line = line)).map (growth image)).sum

theorem growthOn_concat (items : List Item) (item : Item) (line : Nat) :
    growthOn image (items ++ [item]) line =
      growthOn image items line + if item.position.line = line then item.growth image else 0 := by
  by_cases same : item.position.line = line
  · simp [growthOn, same]
  · simp [growthOn, same]

theorem growthOn_eq_zero {items : List Item} {line : Nat}
    (before : ∀ item ∈ items, item.position.line < line) : growthOn image items line = 0 := by
  have none : items.filter (·.position.line = line) = [] := by
    rw [List.filter_eq_nil_iff]
    intro item member
    simpa using Nat.ne_of_lt (before item member)
  simp [growthOn, none]

end Item

namespace Position

/-- Where a place comes to stand when the items in front of it are renamed. -/
structure Moves (before : List Item) (position place : Position) : Prop where
  offset : (place.offset : Int) = position.offset + (before.map (Item.byteGrowth image)).sum
  line : place.line = position.line
  column : (place.column : Int) = position.column + Item.growthOn image before position.line

structure Drifts (before : List Item) (position place : Position) : Prop
    extends Moves image before position place where
  behind : ∀ item ∈ before, item.position.line ≤ position.line

end Position

/-- The renamed items in their places behind other items. -/
structure Item.Renamed (before items others : List Item) : Prop where
  length : others.length = items.length
  each : ∀ (index : Nat) (item : Item), items[index]? = some item → ∃ place : Position,
    others[index]? = some ((item.rename image).relocate fun _ => place) ∧
      Position.Moves image (before ++ items.take index) item.position place

namespace Position

theorem after_of_inline {text : List Char} (inline : '\n' ∉ text) (position : Position) :
    (position.after text).line = position.line ∧
      (position.after text).column = position.column + text.length := by
  induction text generalizing position with
  | nil => exact ⟨rfl, rfl⟩
  | cons char rest ih =>
    rw [List.mem_cons, not_or] at inline
    obtain ⟨notNewline, inline⟩ := inline
    obtain ⟨line, column⟩ := ih inline (position.step char)
    have other : char ≠ '\n' := Ne.symm notNewline
    rw [after_cons, line, column, List.length_cons]
    simp only [step, other, if_false, true_and]
    omega

variable {image} {before : List Item} {position place : Position}

theorem Drifts.step (drifts : Drifts image before position place) (char : Char) :
    Drifts image before (position.step char) (place.step char) := by
  obtain ⟨⟨offset, line, column⟩, behind⟩ := drifts
  have offset' : ((place.step char).offset : Int) =
      (position.step char).offset + (before.map (Item.byteGrowth image)).sum := by
    simp only [Position.step]
    push_cast
    omega
  by_cases newline : char = '\n'
  · -- On a new line nothing has grown yet.
    have none := Item.growthOn_eq_zero image (fun item member => Nat.lt_succ_of_le (behind item member))
    refine ⟨⟨offset', ?_, ?_⟩, fun item member => ?_⟩
    · simp only [Position.step, newline, if_true, line]
    · simp only [Position.step, newline, if_true]
      rw [none]
      rfl
    · have earlier := behind item member
      simp only [Position.step, newline, if_true]
      omega
  · refine ⟨⟨offset', ?_, ?_⟩, ?_⟩
    · simpa only [Position.step, newline, if_false] using line
    · simp only [Position.step, newline, if_false]
      push_cast
      omega
    · simpa only [Position.step, newline, if_false] using behind

theorem Drifts.after (drifts : Drifts image before position place) (text : List Char) :
    Drifts image before (position.after text) (place.after text) := by
  induction text generalizing position place with
  | nil => exact drifts
  | cons char rest ih => exact ih (drifts.step char)

theorem Drifts.after_item (drifts : Drifts image before position place) {item : Item}
    (stands : item.position = position) (inline : '\n' ∉ item.text.toList)
    (inline' : '\n' ∉ (item.rename image).text.toList) :
    Drifts image (before ++ [item]) (position.after item.text.toList)
      (place.after (item.rename image).text.toList) := by
  obtain ⟨⟨offset, line, column⟩, behind⟩ := drifts
  obtain ⟨sameLine, moved⟩ := after_of_inline inline position
  obtain ⟨sameLine', moved'⟩ := after_of_inline inline' place
  refine ⟨⟨?_, by rw [sameLine', sameLine, line], ?_⟩, fun other member => ?_⟩
  · have grown : ((before ++ [item]).map (Item.byteGrowth image)).sum =
        (before.map (Item.byteGrowth image)).sum + item.byteGrowth image := by simp
    rw [grown, offset_after, offset_after, String.ofList_toList, String.ofList_toList,
      Item.byteGrowth]
    push_cast
    omega
  · rw [moved', moved, sameLine, Item.growthOn_concat, stands, if_pos rfl, Item.growth,
      ← String.length_toList, ← String.length_toList]
    push_cast
    omega
  · rw [sameLine]
    rcases List.mem_append.mp member with member | member
    · exact behind other member
    · rw [List.mem_singleton.mp member, stands]

end Position

namespace Segment

variable {image} {policy : Policy} {segment : Segment} {rest : List Char} {position : Position}

theorem Lawful.inline (lawful : segment.Lawful policy rest) {lexeme : Lexeme}
    (yielded : segment.item? position = some (.ok lexeme)) : '\n' ∉ segment.text := by
  cases segment with
  | blank | comment | skipped | malformed | stray => simp [item?] at yielded
  | word run =>
    intro member
    have part := lawful.2.kept _ member
    revert part
    decide +kernel
  | number run value =>
    intro member
    have part := lawful.2.1.kept _ member
    revert part
    decide
  | mark char token =>
    have other : ∀ pair ∈ Lexeme.marks, '\n' ∉ [pair.1] := by decide
    exact other _ lawful

end Segment

namespace Item

variable {image} {before items others : List Item}

theorem Renamed.cons {item : Item} {place : Position}
    (moves : Position.Moves image before item.position place)
    (renamed : Renamed image (before ++ [item]) items others) :
    Renamed image before (item :: items) ((item.rename image).relocate (fun _ => place) :: others) := by
  refine ⟨by rw [List.length_cons, List.length_cons, renamed.length], fun index found same => ?_⟩
  cases index with
  | zero =>
    obtain rfl : item = found := by simpa using same
    exact ⟨place, rfl, by simpa using moves⟩
  | succ index =>
    obtain ⟨place, other, moves⟩ := renamed.each index found (by simpa using same)
    exact ⟨place, by simpa using other, by simpa using moves⟩

theorem Renamed.single {item : Item} {place : Position}
    (moves : Position.Moves image before item.position place) :
    Renamed image before [item] [(item.rename image).relocate fun _ => place] :=
  cons moves ⟨rfl, fun _ _ same => by simp at same⟩

end Item

namespace Cut

variable {image} {policy : Policy} {segments : List Segment} {rest : List Char}

theorem Fits.itemsFrom_rename (images : ∀ name, IsName name → IsName (image name))
    (fits : Fits policy rest segments) {before : List Item} {position place : Position}
    (drifts : Position.Drifts image before position place) :
    Item.Renamed image before (itemsFrom position segments)
      (itemsFrom place (segments.map (Segment.rename image))) := by
  -- A gap moves both places alike, and a lexeme moves them apart by what it gains.
  induction segments generalizing before position place with
  | nil => exact .single drifts.toMoves
  | cons segment others ih =>
    have lawful := fits.1
    have renamed := lawful.item?_rename images position place
    rcases fits.cons_cases position with ⟨gap, further⟩ | ⟨lexeme, yielded, further⟩ |
      ⟨error, yielded, rfl⟩
    · rw [gap, Option.map_none, lawful.rename_of_gap gap] at renamed
      simp only [List.map_cons, itemsFrom, lawful.rename_of_gap gap, gap, renamed]
      exact ih further (drifts.after segment.text)
    · obtain ⟨stands, text⟩ := Segment.item?_stands yielded
      have text' := lawful.toList_rename images yielded
      rw [yielded, Option.map_some] at renamed
      have inline := lawful.inline yielded
      have inline' := (lawful.rename images (.inl rfl)).inline renamed
      rw [← text] at inline
      rw [← text'] at inline'
      -- Neither form of the lexeme ends the line, so both are counted in columns.
      have moved := drifts.after_item stands inline inline'
      rw [text, text'] at moved
      simp only [List.map_cons, itemsFrom, yielded, renamed]
      exact (ih further moved).cons (stands ▸ drifts.toMoves)
    · have stands := (Segment.item?_stands yielded).1
      rw [yielded, Option.map_some] at renamed
      simp only [List.map_cons, itemsFrom, yielded, renamed]
      exact .single (stands ▸ drifts.toMoves)

end Cut

end Kaleidoscope
