import Kaleidoscope.Proofs.Lexeme.Decomposition
import Kaleidoscope.Proofs.Text.Places

/-! Texts on lines of their own.

A newline ends whatever a text ends with, and it starts a line. So the text behind it is cut as if it
stood alone.

Main statements: the items of two texts with a newline between them are those of the first text,
without its end, and those of the second text in their new places; and behind an error a text has no
items, whatever is written there.
-/

set_option autoImplicit false

namespace Kaleidoscope

open Lexeme (isWordPart isNumberPart)

def Lexeme.move (bytes lines : Nat) (lexeme : Lexeme) : Lexeme :=
  { lexeme with position := lexeme.position.move bytes lines }

@[simp] theorem Lexeme.kind_move (bytes lines : Nat) (lexeme : Lexeme) :
    (lexeme.move bytes lines).kind = lexeme.kind := rfl

def LexicalError.move (bytes lines : Nat) : LexicalError → LexicalError
  | .unknownCharacter char position => .unknownCharacter char (position.move bytes lines)
  | .malformedNumber text position => .malformedNumber text (position.move bytes lines)

/-- The item with more bytes and lines in front of it. -/
def Item.move (bytes lines : Nat) : Item → Item
  | .ok lexeme => .ok (lexeme.move bytes lines)
  | .error error => .error (error.move bytes lines)

theorem Item.append_inj {lexemes others : List Lexeme} {last other : Item}
    (same : lexemes.map Except.ok ++ [last] = others.map Except.ok ++ [other]) :
    lexemes = others ∧ last = other := by
  obtain ⟨alike, ends⟩ := List.append_inj' same rfl
  have injective : Function.Injective (Except.ok : Lexeme → Item) := fun _ _ => Except.ok.inj
  exact ⟨List.map_injective_iff.mpr injective alike, by simpa using ends⟩

namespace Segment

variable {policy : Policy} {segment : Segment} {rest : List Char}

theorem item?_move (segment : Segment) (bytes lines : Nat) (position : Position) :
    segment.item? (position.move bytes lines) =
      (segment.item? position).map (Item.move bytes lines) := by
  cases segment <;> rfl

theorem Lawful.before_newline (lawful : segment.Lawful policy rest) (second : List Char) :
    segment.Lawful policy (rest ++ '\n' :: second) := by
  have stops {keep : Char → Bool} (other : keep '\n' = false) :
      ∀ char ∈ ('\n' :: second).head?, keep char = false := by
    simpa using other
  have noWord : isWordPart '\n' = false := by decide +kernel
  have noNumber : isNumberPart '\n' = false := by decide
  cases segment with
  | blank | skipped | mark | stray => exact lawful
  | comment run => exact LongestRun.append lawful (stops (by decide))
  | word run => exact ⟨lawful.1, lawful.2.append (stops noWord)⟩
  | number run value =>
    obtain ⟨nonempty, longest, spelled⟩ := lawful
    exact ⟨nonempty, longest.append (stops noNumber), spelled⟩
  | malformed run =>
    obtain ⟨nonempty, longest, illFormed⟩ := lawful
    exact ⟨nonempty, longest.append (stops noNumber), illFormed⟩

theorem lawful_newline (policy : Policy) (rest : List Char) :
    (Segment.blank '\n').Lawful policy rest :=
  show Unicode.isWhiteSpace '\n' = true by decide +kernel

end Segment

namespace Cut

variable {policy : Policy} {segments : List Segment} {rest : List Char}

theorem textOf_append (first second : List Segment) :
    textOf (first ++ second) = textOf first ++ textOf second :=
  List.flatMap_append

theorem itemsFrom_move (bytes lines : Nat) (position : Position) (segments : List Segment) :
    itemsFrom (position.move bytes lines) segments =
      (itemsFrom position segments).map (Item.move bytes lines) := by
  induction segments generalizing position with
  | nil => rfl
  | cons segment others ih =>
    simp only [itemsFrom, Segment.item?_move, Position.after_move, ih]
    rcases segment.item?_cases position with ⟨gap, -⟩ | ⟨lexeme, yielded, -⟩ | ⟨error, yielded, -⟩
    · simp [gap]
    · simp [yielded, Item.move]
    · simp [yielded, Item.move]

/-- Nothing in the cut is an error, so it goes to the end of its text. -/
def Whole (segments : List Segment) : Prop := ∀ segment ∈ segments, segment.isError = false

theorem whole_of_items {position : Position} {segments : List Segment}
    (fine : ∀ error, .error error ∉ itemsFrom position segments) : Whole segments := by
  induction segments generalizing position with
  | nil => simp [Whole]
  | cons segment others ih =>
    simp only [itemsFrom] at fine
    refine List.forall_mem_cons.mpr ?_
    rcases segment.item?_cases position with ⟨gap, sound⟩ | ⟨lexeme, yielded, sound⟩ |
      ⟨error, yielded, -⟩
    · rw [gap] at fine
      exact ⟨sound, ih fine⟩
    · rw [yielded] at fine
      exact ⟨sound, ih fun error member => fine error (List.mem_cons_of_mem _ member)⟩
    · rw [yielded] at fine
      exact absurd (List.mem_singleton_self _) (fine error)

theorem Fits.whole_append {segments others : List Segment} (fits : Fits policy [] segments)
    (whole : Whole segments) (behind : Fits policy rest others) :
    Fits policy rest (segments ++ .blank '\n' :: others) := by
  induction segments with
  | nil => exact ⟨Segment.lawful_newline policy _, behind⟩
  | cons segment segments ih =>
    obtain ⟨sound, whole⟩ := List.forall_mem_cons.mp whole
    obtain ⟨lawful, fits⟩ := fits
    rw [sound] at fits
    refine ⟨?_, ?_⟩
    · have further := lawful.before_newline (textOf others ++ rest)
      simpa [textOf, Segment.text] using further
    · rw [sound]
      exact ih fits whole

/-- Behind an error the text may be anything, as long as a newline keeps it off. -/
theorem Fits.before_newline {segments : List Segment} (fits : Fits policy rest segments)
    (broken : ¬ Whole segments) (second : List Char) :
    Fits policy (rest ++ '\n' :: second) segments := by
  induction segments with
  | nil => exact absurd (fun _ member => nomatch member) broken
  | cons segment segments ih =>
    obtain ⟨lawful, fits⟩ := fits
    refine ⟨?_, ?_⟩
    · rw [← List.append_assoc]
      exact lawful.before_newline second
    · cases sound : segment.isError with
      | true => simpa [sound] using fits
      | false =>
        rw [sound] at fits
        exact ih fits fun whole => broken (List.forall_mem_cons.mpr ⟨sound, whole⟩)

theorem Fits.rest_eq_nil {segments : List Segment} (fits : Fits policy rest segments)
    (whole : Whole segments) : rest = [] := by
  induction segments with
  | nil => exact fits
  | cons segment segments ih =>
    obtain ⟨sound, whole⟩ := List.forall_mem_cons.mp whole
    obtain ⟨-, fits⟩ := fits
    rw [sound] at fits
    exact ih fits whole

theorem Whole.itemsFrom_append {segments : List Segment} (whole : Whole segments)
    (position : Position) :
    ∃ lexemes : List Lexeme, ∀ others, itemsFrom position (segments ++ others) =
      lexemes.map .ok ++ itemsFrom (position.after (textOf segments)) others := by
  induction segments generalizing position with
  | nil => exact ⟨[], fun _ => rfl⟩
  | cons segment segments ih =>
    obtain ⟨sound, whole⟩ := List.forall_mem_cons.mp whole
    obtain ⟨lexemes, goesOn⟩ := ih whole (position.after segment.text)
    have places (others : List Segment) :
        itemsFrom (position.after (textOf (segment :: segments))) others =
          itemsFrom ((position.after segment.text).after (textOf segments)) others := by
      simp [textOf, Position.after_append]
    rcases segment.item?_cases position with ⟨gap, -⟩ | ⟨lexeme, yielded, -⟩ | ⟨error, -, failed⟩
    · refine ⟨lexemes, fun others => ?_⟩
      rw [places, ← goesOn, List.cons_append, itemsFrom, gap]
    · refine ⟨lexeme :: lexemes, fun others => ?_⟩
      rw [places, List.map_cons, List.cons_append, List.cons_append, ← goesOn, itemsFrom, yielded]
    · simp [sound] at failed

end Cut

namespace Source

variable {policy : Policy} {first : String}

theorem exists_whole_segments {ending : Lexeme} (ended : last policy first = .ok ending) :
    ∃ segments, Cut.text ⟨segments, []⟩ = first.toList ∧ Cut.Fits policy [] segments ∧
      Cut.Whole segments := by
  obtain ⟨⟨segments, rest⟩, ⟨text, fits⟩, -⟩ := Cut.existsUnique policy first.toList
  have items : Cut.itemsFrom .start segments = _ := Cut.items_eq text fits
  rw [items_eq, ended] at items
  have fine : ∀ error, .error error ∉ Cut.itemsFrom .start segments := by
    rw [items]
    simp
  have whole := Cut.whole_of_items fine
  obtain rfl : rest = [] := fits.rest_eq_nil whole
  exact ⟨segments, text, fits, whole⟩

theorem items_joined {ending : Lexeme} (ended : last policy first = .ok ending) (second : String) :
    items policy (first ++ "\n" ++ second) =
      (lexemes policy first).map .ok ++ (items policy second).map
        (Item.move (first.utf8ByteSize + 1) (1 + first.toList.count '\n')) := by
  obtain ⟨segments, text, fits, whole⟩ := exists_whole_segments ended
  obtain ⟨⟨others, rest⟩, ⟨text', fits'⟩, -⟩ := Cut.existsUnique policy second.toList
  obtain ⟨before, goesOn⟩ := whole.itemsFrom_append .start
  -- The lexemes of the first text are those that its segments yield in any context.
  obtain rfl : lexemes policy first = before := by
    have items : Cut.itemsFrom .start segments = _ := Cut.items_eq text fits
    have alone := goesOn []
    rw [List.append_nil, items, items_eq] at alone
    exact (Item.append_inj alone).1
  have alone : Cut.textOf segments = first.toList := by simpa [Cut.text] using text
  have joined : Cut.text ⟨segments ++ .blank '\n' :: others, rest⟩ =
      (first ++ "\n" ++ second).toList := by
    have line : Cut.textOf (.blank '\n' :: others) = '\n' :: Cut.textOf others := rfl
    rw [Cut.text, Cut.textOf_append, alone, line, List.append_assoc, List.cons_append,
      show Cut.textOf others ++ rest = second.toList from text']
    simp
  rw [← Cut.items_eq joined (fits.whole_append whole fits'), ← Cut.items_eq text' fits']
  simp only [Cut.items, goesOn, alone, Position.after_start]
  rw [← Cut.itemsFrom_move, ← Position.behind_step_newline]
  rfl

theorem joined {ending : Lexeme} (ended : last policy first = .ok ending) (second : String) :
    lexemes policy (first ++ "\n" ++ second) = lexemes policy first ++
      (lexemes policy second).map
        (Lexeme.move (first.utf8ByteSize + 1) (1 + first.toList.count '\n')) ∧
    last policy (first ++ "\n" ++ second) =
      Item.move (first.utf8ByteSize + 1) (1 + first.toList.count '\n') (last policy second) := by
  have items := items_joined ended second
  rw [items_eq, items_eq] at items
  apply Item.append_inj
  rw [items]
  simp [Item.move, Function.comp_def]

theorem joined_of_error {error : LexicalError} (failed : last policy first = .error error)
    (second : String) :
    lexemes policy (first ++ "\n" ++ second) = lexemes policy first ∧
      last policy (first ++ "\n" ++ second) = last policy first := by
  obtain ⟨⟨segments, rest⟩, ⟨text, fits⟩, -⟩ := Cut.existsUnique policy first.toList
  have items : Cut.itemsFrom .start segments = _ := Cut.items_eq text fits
  have broken : ¬ Cut.Whole segments := by
    intro whole
    obtain ⟨before, goesOn⟩ := whole.itemsFrom_append .start
    have alone := goesOn []
    rw [List.append_nil, items, items_eq] at alone
    have ended := (Item.append_inj alone).2
    simp [failed] at ended
  have joined : Cut.text ⟨segments, rest ++ '\n' :: second.toList⟩ =
      (first ++ "\n" ++ second).toList := by
    have alone : Cut.textOf segments ++ rest = first.toList := text
    rw [Cut.text, ← List.append_assoc, alone]
    simp
  have further : Cut.itemsFrom .start segments = _ :=
    Cut.items_eq joined (fits.before_newline broken second.toList)
  rw [items, items_eq, items_eq] at further
  exact Item.append_inj further.symm

end Source

namespace Lexer

/-- The iterator goes on behind a text that it has read to its end: all that stands on further lines is
yielded in its new place. Behind an error it does not go on, whatever stands there. -/
theorem yields_joined (policy : Policy) (first : String) (before : List Item) (last : Item)
    (alone : (start policy first).Yields (before ++ [last])) :
    (∀ lexeme, last = .ok lexeme → lexeme.token = .endOfInput ∧
      ∀ second others, (start policy second).Yields others →
        (start policy (first ++ "\n" ++ second)).Yields
          (before ++ others.map
            (Item.move (first.utf8ByteSize + 1) (1 + first.toList.count '\n')))) ∧
    ∀ error, last = .error error →
      ∀ second, (start policy (first ++ "\n" ++ second)).Yields (before ++ [last]) := by
  have items := yields_iff.mp alone
  rw [Source.items_eq] at items
  obtain ⟨rfl, ends⟩ := List.append_inj' items rfl
  obtain rfl := List.head_eq_of_cons_eq ends
  constructor
  · intro lexeme ended
    refine ⟨Lexeme.kind_eq_endOfInput_iff.mp (Source.kind_of_last lexeme ended), ?_⟩
    intro second others behind
    rw [yields_iff, Source.items_joined ended second, yields_iff.mp behind]
  · intro error failed second
    obtain ⟨read, behind⟩ := Source.joined_of_error failed second
    rw [yields_iff, Source.items_eq, read, behind]

-- The first text ends inside a comment; with its newline the next text begins at the ninth byte,
-- and an error there hides the third text.
theorem yields_joined_behind_comment :
    (start .reject "é # ü").Yields
      [.ok ⟨.identifier "é", "é", ⟨0, 1, 1⟩⟩, .ok (.ending ⟨7, 1, 6⟩)] ∧
    (start .reject "x\n .5.").Yields
      [.ok ⟨.identifier "x", "x", ⟨0, 1, 1⟩⟩, .error (.malformedNumber ".5." ⟨3, 2, 2⟩)] ∧
    (start .reject ("é # ü" ++ "\n" ++ "x\n .5.")).Yields
      [.ok ⟨.identifier "é", "é", ⟨0, 1, 1⟩⟩, .ok ⟨.identifier "x", "x", ⟨8, 2, 1⟩⟩,
        .error (.malformedNumber ".5." ⟨11, 3, 2⟩)] ∧
    ∀ second, (start .reject ("x\n .5." ++ "\n" ++ second)).Yields
      [.ok ⟨.identifier "x", "x", ⟨0, 1, 1⟩⟩, .error (.malformedNumber ".5." ⟨3, 2, 2⟩)] := by
  have alone : (start .reject "é # ü").Yields
      ([.ok ⟨.identifier "é", "é", ⟨0, 1, 1⟩⟩] ++ [.ok (.ending ⟨7, 1, 6⟩)]) :=
    yields_iff.mpr (by decide +kernel)
  have broken : (start .reject "x\n .5.").Yields
      ([.ok ⟨.identifier "x", "x", ⟨0, 1, 1⟩⟩] ++ [.error (.malformedNumber ".5." ⟨3, 2, 2⟩)]) :=
    yields_iff.mpr (by decide +kernel)
  obtain ⟨-, joined⟩ := (yields_joined _ _ _ _ alone).1 _ rfl
  exact ⟨alone, broken, joined _ _ broken, (yields_joined _ _ _ _ broken).2 _ rfl⟩

end Lexer

end Kaleidoscope
