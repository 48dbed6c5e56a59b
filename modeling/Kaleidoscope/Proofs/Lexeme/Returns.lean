import Kaleidoscope.Proofs.Source.Relocation
import Kaleidoscope.Proofs.Text.Returns

/-! Scanning lines that end with a return and a newline.

A return in front of a newline is a blank outside comments and goes on with a comment inside of one. So it
always belongs to the gap that the newline belongs to.

Main statement: with a return in front of each newline a text is scanned as it is without, but for the
offsets.
-/

set_option autoImplicit false

namespace Kaleidoscope

open Text (returned)

theorem Lexeme.gapStep_newline (policy : Policy) (comment : Bool) :
    gapStep policy comment '\n' = some false := by
  have blank : Unicode.isWhiteSpace '\n' = true := by decide +kernel
  cases comment <;> simp [gapStep, blank]

theorem Lexeme.gapStep_return (policy : Policy) (comment : Bool) :
    gapStep policy comment '\r' = some comment := by
  have blank : Unicode.isWhiteSpace '\r' = true := by decide +kernel
  cases comment <;> simp [gapStep, blank]

namespace Cursor

/-- The second cursor stands where the first one does, in the text with returns. -/
structure Returns (cursor other : Cursor) : Prop where
  rest : other.rest = returned cursor.rest
  place : other.position.withoutOffset = cursor.position.withoutOffset

variable {policy : Policy} {cursor other : Cursor}

theorem skipGapFrom_returns (policy : Policy) (comment : Bool) {position place : Position}
    (same : place.withoutOffset = position.withoutOffset) (text : List Char) :
    (skipGapFrom policy comment position text).Returns
      (skipGapFrom policy comment place (returned text)) := by
  induction text generalizing comment position place with
  | nil => exact ⟨rfl, same⟩
  | cons char rest ih =>
    by_cases newline : char = '\n'
    · subst newline
      simp only [Text.returned_newline, skipGapFrom, Lexeme.gapStep_newline, Lexeme.gapStep_return]
      exact ih false (Position.withoutOffset_step_return same)
    · rw [Text.returned_cons newline]
      unfold skipGapFrom
      cases Lexeme.gapStep policy comment char with
      | none => exact ⟨(Text.returned_cons newline rest).symm, same⟩
      | some inside => exact ih inside (Position.withoutOffset_step same Iff.rfl)

theorem Returns.skipGap (returns : cursor.Returns other) (policy : Policy) :
    (cursor.skipGap policy).Returns (other.skipGap policy) := by
  unfold Cursor.skipGap
  rw [returns.rest]
  exact skipGapFrom_returns policy false returns.place cursor.rest

theorem head?_skipGapFrom (policy : Policy) (comment : Bool) (position : Position)
    (text : List Char) : (skipGapFrom policy comment position text).rest.head? ≠ some '\n' := by
  induction text generalizing comment position with
  | nil => simp [skipGapFrom]
  | cons char rest ih =>
    unfold skipGapFrom
    cases step : Lexeme.gapStep policy comment char with
    | some inside => exact ih inside _
    | none =>
      intro first
      obtain rfl : char = '\n' := Option.some.inj first
      simp [Lexeme.gapStep_newline] at step

theorem Returns.skipWhile (returns : cursor.Returns other) {keep : Char → Bool}
    (noNewline : keep '\n' = false) (noReturn : keep '\r' = false) :
    (cursor.skipWhile keep).Returns (other.skipWhile keep) := by
  constructor
  · simp only [Cursor.skipWhile]
    rw [returns.rest, Text.dropWhile_returned noNewline noReturn]
  · simp only [Cursor.skipWhile]
    rw [returns.rest, Text.takeWhile_returned noNewline noReturn]
    exact Position.withoutOffset_after returns.place _

theorem Returns.number (returns : cursor.Returns other) :
    other.number.relocate Position.withoutOffset =
      cursor.number.relocate Position.withoutOffset := by
  have same : other.rest.takeWhile Lexeme.isNumberPart =
      cursor.rest.takeWhile Lexeme.isNumberPart := by
    rw [returns.rest, Text.takeWhile_returned (by decide) (by decide)]
  simp only [Cursor.number, same]
  cases Binary64.ofLiteral? (cursor.rest.takeWhile Lexeme.isNumberPart) <;>
    simp [Item.relocate, Lexeme.relocate, LexicalError.relocate, returns.place]

theorem Returns.mark (returns : cursor.Returns other) (char : Char) :
    (other.mark char).relocate Position.withoutOffset =
      (cursor.mark char).relocate Position.withoutOffset := by
  unfold Cursor.mark
  cases Token.ofMark? char <;>
    simp [Item.relocate, Lexeme.relocate, LexicalError.relocate, returns.place]

theorem Returns.read? (returns : cursor.Returns other) (inner : cursor.rest.head? ≠ some '\n')
    {item : Item} {next : Cursor} (found : cursor.read? = some (item, next)) :
    ∃ item' next', other.read? = some (item', next') ∧
      item'.relocate Position.withoutOffset = item.relocate Position.withoutOffset ∧
      next.Returns next' := by
  have wordNewline : Lexeme.isWordPart '\n' = false := by decide +kernel
  have wordReturn : Lexeme.isWordPart '\r' = false := by decide +kernel
  obtain ⟨char, behind, rest, reads⟩ := Cursor.read?_eq_some_iff.mp found
  have notNewline : char ≠ '\n' := by simpa [rest] using inner
  -- Outside gaps no return has been added, so the same item is read.
  have same : other.rest = char :: Text.returned behind := by
    rw [returns.rest, rest, Text.returned_cons notNewline]
  have read {item' : Item} {next' : Cursor} (reads : other.Reads char item' next') :
      other.read? = some (item', next') :=
    Cursor.read?_eq_some_iff.mpr ⟨char, _, same, reads⟩
  cases reads with
  | word first =>
    refine ⟨_, _, read (.word first), ?_, returns.skipWhile wordNewline wordReturn⟩
    simp only [Cursor.word, Item.relocate, Lexeme.relocate, returns.rest, returns.place,
      Text.takeWhile_returned wordNewline wordReturn]
  | number noWord part =>
    exact ⟨_, _, read (.number noWord part), returns.number,
      returns.skipWhile (by decide) (by decide)⟩
  | mark noWord noNumber =>
    refine ⟨_, _, read (.mark noWord noNumber), returns.mark char, ?_⟩
    simp only [Cursor.advance, rest, same]
    exact ⟨rfl, Position.withoutOffset_step returns.place Iff.rfl⟩

theorem Returns.scan (returns : cursor.Returns other) :
    (other.scan policy).relocate Position.withoutOffset =
      (cursor.scan policy).relocate Position.withoutOffset := by
  -- The induction is on the items that are read from the first cursor.
  induction cursor using Cursor.scan.induct policy generalizing other with
  | case1 cursor missing =>
    have gap := returns.skipGap policy
    have ended : (other.skipGap policy).read? = none := by
      rw [Cursor.read?_eq_none_iff] at missing ⊢
      rw [gap.rest, missing, Text.returned_nil]
    rw [Cursor.scan_of_read?_none missing, Cursor.scan_of_read?_none ended]
    exact congrArg (Scan.mk []) gap.place
  | case2 cursor item next found ih =>
    have gap := returns.skipGap policy
    obtain ⟨item', next', found', same, further⟩ := gap.read? (head?_skipGapFrom _ _ _ _) found
    rw [Cursor.scan_of_read? found, Cursor.scan_of_read? found']
    have behind := ih further
    simp only [Scan.relocate, Scan.mk.injEq] at behind
    simp only [Scan.relocate, List.map_cons, same, behind]

end Cursor

namespace Source

theorem scan_withReturns (policy : Policy) (source : String) :
    (scan policy (Text.withReturns source)).relocate Position.withoutOffset =
      (scan policy source).relocate Position.withoutOffset :=
  Cursor.Returns.scan ⟨Text.toList_withReturns source, rfl⟩

end Source

end Kaleidoscope
