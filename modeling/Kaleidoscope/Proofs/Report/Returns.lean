import Kaleidoscope.Proofs.Lexeme.Returns
import Kaleidoscope.Proofs.Transcript.Delivery
import Kaleidoscope.Report

/-! Reports on lines that end with a return and a newline.

A report shows the lines of its source and the lines and columns of places, but neither offsets nor what
ends a line.

Main statement: with a return in front of each newline the report on a source is the same, byte for byte.
-/

set_option autoImplicit false

namespace Kaleidoscope

namespace ParseError

variable {error other : ParseError}

@[simp] theorem message_withoutOffset (error : ParseError) :
    (error.relocate Position.withoutOffset).message = error.message := by
  rcases error with ⟨_, _ | _, _⟩ | (_ | _) <;> rfl

@[simp] theorem position_relocate (move : Position → Position) (error : ParseError) :
    (error.relocate move).position = move error.position := by
  rcases error with _ | (_ | _) <;> rfl

theorem excerpt_eq_of_lines {source source' : String}
    (same : other.relocate Position.withoutOffset = error.relocate Position.withoutOffset)
    (lines : ∀ number, Text.line source' number = Text.line source number) :
    other.excerpt source' = error.excerpt source := by
  have message := congrArg ParseError.message same
  have place := congrArg ParseError.position same
  simp only [message_withoutOffset] at message
  simp only [position_relocate, Position.withoutOffset, Position.mk.injEq, true_and] at place
  unfold excerpt
  rw [message, place.1, place.2, lines]

end ParseError

namespace Report

theorem tokenLine_withoutOffset (lexeme : Lexeme) :
    tokenLine (lexeme.relocate Position.withoutOffset) = tokenLine lexeme := rfl

/-- The work on two sources ends well, or for want of room, or it is refused for the same reason in words
that are the same; only the offset of what is refused may differ. -/
inductive EndsAlike (source other : String) : Except Failure Unit → Except Failure Unit → Prop where
  | fine : EndsAlike source other (.ok ()) (.ok ())
  | full : EndsAlike source other (.error (.broken .full)) (.error (.broken .full))
  | refused {error error' : ParseError} :
      error'.relocate Position.withoutOffset = error.relocate Position.withoutOffset →
      (Failure.refused error' other).message = (Failure.refused error source).message →
      EndsAlike source other (.error (.refused error source)) (.error (.refused error' other))

/-- The same is written, and the work ends alike. -/
structure ToldAlike (source other : String) (first second : Transcript) : Prop where
  writes : second.writes = first.writes
  ending : EndsAlike source other first.ending second.ending

variable {source other : String}

theorem ToldAlike.andThen {first second front behind : Transcript}
    (before : ToldAlike source other first second) (after : ToldAlike source other front behind) :
    ToldAlike source other (first.andThen front) (second.andThen behind) := by
  obtain ⟨writes, ending⟩ := first
  obtain ⟨writes', ending'⟩ := second
  obtain ⟨rfl, ends⟩ := before
  cases ends with
  | fine => exact ⟨congrArg (writes' ++ ·) after.writes, after.ending⟩
  | full => exact ⟨rfl, .full⟩
  | refused same message => exact ⟨rfl, .refused same message⟩

theorem ToldAlike.deliver {first second : Transcript} (alike : ToldAlike source other first second)
    (limit : Option Nat) :
    (second.deliver limit).1 = (first.deliver limit).1 ∧
      EndsAlike source other (first.deliver limit).2 (second.deliver limit).2 := by
  have bytes : second.bytes = first.bytes := by
    unfold Transcript.bytes
    rw [alike.writes]
  cases limit with
  | none =>
    rw [Transcript.deliver_none, Transcript.deliver_none]
    exact ⟨bytes, alike.ending⟩
  | some room =>
    rw [Transcript.deliver_some, Transcript.deliver_some, bytes]
    refine ⟨rfl, ?_⟩
    dsimp only
    split
    · exact alike.ending
    · exact .full

section
variable (lines : ∀ number, Text.line other number = Text.line source number)
include lines

theorem refused_alike {error error' : ParseError}
    (same : error'.relocate Position.withoutOffset = error.relocate Position.withoutOffset) :
    ToldAlike source other (.fail (.refused error source)) (.fail (.refused error' other)) :=
  ⟨rfl, .refused same (ParseError.excerpt_eq_of_lines same lines)⟩

theorem ofResult_alike {α : Type} (write : α → List String) {result result' : Except ParseError α}
    (same : result'.mapError (ParseError.relocate Position.withoutOffset) =
      result.mapError (ParseError.relocate Position.withoutOffset)) :
    ToldAlike source other (ofResult source write result) (ofResult other write result') := by
  cases result with
  | ok value =>
    cases result' with
    | ok value' =>
      obtain rfl : value' = value := Except.ok.inj same
      exact ⟨rfl, .fine⟩
    | error => simp at same
  | error error =>
    cases result' with
    | ok => simp at same
    | error error' => exact refused_alike lines (Except.error.inj same)

theorem listing_alike {items items' : List Item}
    (same : items'.map (Item.relocate Position.withoutOffset) =
      items.map (Item.relocate Position.withoutOffset)) :
    ToldAlike source other (listing source items) (listing other items') := by
  -- The induction follows the items, which end with the first error.
  induction items generalizing items' with
  | nil =>
    obtain rfl := List.map_eq_nil_iff.mp same
    exact ⟨rfl, .fine⟩
  | cons item rest ih =>
    cases items' with
    | nil => simp at same
    | cons item' rest' =>
      obtain ⟨first, behind⟩ := List.cons.inj same
      cases item with
      | ok lexeme =>
        cases item' with
        | ok lexeme' =>
          have placed : lexeme'.relocate Position.withoutOffset =
              lexeme.relocate Position.withoutOffset := by
            simpa [Item.relocate] using first
          have shown : tokenLine lexeme' = tokenLine lexeme := by
            rw [← tokenLine_withoutOffset lexeme', placed, tokenLine_withoutOffset]
          refine ToldAlike.andThen ⟨?_, .fine⟩ (ih behind)
          exact congrArg (fun line => [line]) shown
        | error => simp [Item.relocate] at first
      | error error =>
        cases item' with
        | ok => simp [Item.relocate] at first
        | error error' =>
          have placed : error'.relocate Position.withoutOffset =
              error.relocate Position.withoutOffset := by
            simpa [Item.relocate] using first
          exact refused_alike lines (congrArg ParseError.lexical placed)

theorem ofSource_alike (options : Options)
    (same : (Source.items options.policy other).map (Item.relocate Position.withoutOffset) =
      (Source.items options.policy source).map (Item.relocate Position.withoutOffset)) :
    ToldAlike source other (ofSource options source) (ofSource options other) := by
  obtain ⟨program, definition⟩ := Source.parse_of_items same
  have trees : ToldAlike source other (trees options source) (trees options other) := by
    unfold Report.trees
    split
    · exact ofResult_alike lines _ program
    · exact ofResult_alike lines _ definition
  unfold ofSource
  split
  · have heading : ToldAlike source other (.ofWrites ["Tokens:\n"]) (.ofWrites ["Tokens:\n"]) :=
      ⟨rfl, .fine⟩
    exact (heading.andThen (listing_alike lines same)).andThen trees
  · exact trees

end

theorem ofSource_withReturns (options : Options) (source : String) (limit : Option Nat)
    (plain : '\r' ∉ source.toList) :
    ((ofSource options (Text.withReturns source)).deliver limit).1 =
        ((ofSource options source).deliver limit).1 ∧
      EndsAlike source (Text.withReturns source) ((ofSource options source).deliver limit).2
        ((ofSource options (Text.withReturns source)).deliver limit).2 := by
  have items := Source.items_of_scan (Source.scan_withReturns options.policy source)
  have alike := ofSource_alike (Text.line_withReturns plain) options items
  exact alike.deliver limit

-- A comment, a blank line and an error behind them.
theorem ofSource_withReturns_refused :
    '\r' ∉ "f(x) # c\n\n  1.2.3\n".toList ∧
    Text.withReturns "f(x) # c\n\n  1.2.3\n" = "f(x) # c\r\n\r\n  1.2.3\r\n" ∧
    ((ofSource ⟨none, true, true, false, false⟩ "f(x) # c\r\n\r\n  1.2.3\r\n").deliver none).1 =
      ((ofSource ⟨none, true, true, false, false⟩ "f(x) # c\n\n  1.2.3\n").deliver none).1 ∧
    EndsAlike "f(x) # c\n\n  1.2.3\n" "f(x) # c\r\n\r\n  1.2.3\r\n"
      (.error (.refused (.lexical (.malformedNumber "1.2.3" ⟨12, 3, 3⟩)) "f(x) # c\n\n  1.2.3\n"))
      (.error (.refused (.lexical (.malformedNumber "1.2.3" ⟨14, 3, 3⟩))
        "f(x) # c\r\n\r\n  1.2.3\r\n")) := by
  have plain : '\r' ∉ "f(x) # c\n\n  1.2.3\n".toList := by decide
  have text : Text.withReturns "f(x) # c\n\n  1.2.3\n" = "f(x) # c\r\n\r\n  1.2.3\r\n" := by
    decide +kernel
  obtain ⟨bytes, ends⟩ := ofSource_withReturns ⟨none, true, true, false, false⟩ _ none plain
  rw [text] at bytes ends
  have first : ((ofSource ⟨none, true, true, false, false⟩
      "f(x) # c\n\n  1.2.3\n").deliver none).2 = .error (.refused
        (.lexical (.malformedNumber "1.2.3" ⟨12, 3, 3⟩)) "f(x) # c\n\n  1.2.3\n") := by
    decide +kernel
  have second : ((ofSource ⟨none, true, true, false, false⟩
      "f(x) # c\r\n\r\n  1.2.3\r\n").deliver none).2 = .error (.refused
        (.lexical (.malformedNumber "1.2.3" ⟨14, 3, 3⟩)) "f(x) # c\r\n\r\n  1.2.3\r\n") := by
    decide +kernel
  rw [first, second] at ends
  exact ⟨plain, text, bytes, ends⟩

end Report

end Kaleidoscope
