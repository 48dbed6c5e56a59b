import Kaleidoscope.Proofs.Lexeme.Movement
import Kaleidoscope.Proofs.Lexeme.Resumed
import Kaleidoscope.Proofs.Machine.Relocation
import Mathlib.Data.List.Forall2

/-! Skipped characters as blanks.

Whether a character is dropped depends on where the scan stands: what begins nothing may still go on
with a word, and in a comment everything is passed over.

Main statements: with a blank for each dropped character a text has the same segments, but for these
blanks, and a rejecting scan takes them; and they yield the same items on the same lines and columns.
-/

set_option autoImplicit false

namespace Kaleidoscope

open Lexeme (isWordPart isNumberPart startsLexeme Unknown)
open Segment (roleOf)

def Lexeme.isDropped (comment : Bool) (char : Char) : Bool :=
  !comment && !Unicode.isWhiteSpace char && char != '#' && !startsLexeme char

namespace Cursor

/-- The text of a gap, with a blank for each character that is dropped in it. -/
def blankedGap (comment : Bool) : List Char → List Char
  | [] => []
  | char :: rest =>
      match Lexeme.gapStep .skip comment char with
      | some inside =>
          (if Lexeme.isDropped comment char then ' ' else char) :: blankedGap inside rest
      | none => []

/-- The text at the cursor, with a blank for each character that a skipping scan drops. A scan that is
not resumed leaves what stands behind its first error as it is. -/
def blanked (resumed : Bool) (cursor : Cursor) : List Char :=
  blankedGap false cursor.rest ++
    match _found : (cursor.skipGap .skip).read? with
    | none => []
    | some (item, next) =>
        item.text.toList ++ if resumed || item.isOk then next.blanked resumed else next.rest
termination_by cursor.rest.length
decreasing_by
  exact Nat.lt_of_lt_of_le (Cursor.read?_length_lt _found) (Cursor.skipGap_length_le .skip cursor)

variable {resumed : Bool} {cursor next : Cursor} {item : Item}

theorem blanked_of_read? (found : (cursor.skipGap .skip).read? = some (item, next)) :
    cursor.blanked resumed = blankedGap false cursor.rest ++
      (item.text.toList ++ if resumed || item.isOk then next.blanked resumed else next.rest) := by
  rw [blanked]
  split
  · next missing => simp [missing] at found
  · next other rest present =>
    obtain ⟨rfl, rfl⟩ : other = item ∧ rest = next := by simpa [found, eq_comm] using present
    rfl

theorem blanked_of_read?_none (missing : (cursor.skipGap .skip).read? = none) :
    cursor.blanked resumed = blankedGap false cursor.rest := by
  rw [blanked]
  split
  · rw [List.append_nil]
  · next present => simp [missing] at present

end Cursor

namespace Segment

def blanked : Segment → Segment
  | .skipped _ => .blank ' '
  | segment => segment

theorem length_blanked (segment : Segment) :
    segment.blanked.text.length = segment.text.length := by
  cases segment <;> rfl

theorem isDropped_eq (char : Char) : Lexeme.isDropped false char = decide (roleOf char = .unknown) := by
  have dropped : Lexeme.isDropped false char =
      ((Lexeme.gapStep .skip false char).isSome && (Lexeme.gapStep .reject false char).isNone) := by
    unfold Lexeme.isDropped Lexeme.gapStep
    by_cases white : Unicode.isWhiteSpace char = true
    · simp [white]
    by_cases hash : char = '#'
    · simp [hash]
    cases startsLexeme char <;> simp [white, hash]
  rw [dropped, gapStep_eq, gapStep_eq]
  cases roleOf char <;> rfl

theorem blankedGap_cons (char : Char) (rest : List Char) :
    Cursor.blankedGap false (char :: rest) =
      match roleOf char with
      | .blank => char :: Cursor.blankedGap false rest
      | .comment => char :: Cursor.blankedGap true rest
      | .unknown => ' ' :: Cursor.blankedGap false rest
      | .word | .number | .mark => [] := by
  rw [Cursor.blankedGap, gapStep_eq, isDropped_eq]
  cases roleOf char <;> rfl

theorem blankedGap_comment {run rest : List Char} (longest : LongestRun (· != '\n') run rest) :
    Cursor.blankedGap true (run ++ rest) = run ++ Cursor.blankedGap false rest := by
  induction run with
  | nil =>
    cases rest with
    | nil => rfl
    | cons char rest =>
      -- The newline ends the comment, and is a blank behind it.
      obtain rfl : char = '\n' := by simpa using longest.stopped char rfl
      have blank : roleOf '\n' = .blank := by decide +kernel
      rw [List.nil_append, List.nil_append, blankedGap_cons, blank]
      rfl
  | cons char run ih =>
    have inside : (char != '\n') = true := longest.kept char (by simp)
    rw [List.cons_append, List.cons_append, ← ih longest.tail]
    simp [Cursor.blankedGap, Lexeme.gapStep, Lexeme.isDropped, inside]

variable {segment : Segment} {rest : List Char} {position : Position}

theorem Lawful.blankedGap_eq (lawful : segment.Lawful .skip rest)
    (gap : segment.item? position = none) :
    Cursor.blankedGap false (segment.text ++ rest) =
      segment.blanked.text ++ Cursor.blankedGap false rest := by
  obtain ⟨char, others, text, role⟩ := lawful.exists_head
  cases segment with
  | blank char | skipped char =>
    obtain ⟨rfl, rfl⟩ := List.cons.inj text
    rw [Segment.text, List.singleton_append, blankedGap_cons, role]
    rfl
  | comment run =>
    obtain ⟨rfl, rfl⟩ := List.cons.inj text
    rw [Segment.text, List.cons_append, blankedGap_cons, role]
    exact congrArg ('#' :: ·) (blankedGap_comment lawful)
  | word | number | mark | malformed | stray => simp [item?] at gap

theorem Lawful.blankedGap_eq_nil (lawful : segment.Lawful .skip rest) {item : Item}
    (yielded : segment.item? position = some item) :
    Cursor.blankedGap false (segment.text ++ rest) = [] := by
  obtain ⟨char, others, text, role⟩ := lawful.exists_head
  rw [text, List.cons_append, blankedGap_cons, role]
  cases segment with
  | blank | comment | skipped => simp [item?] at yielded
  | word | number | mark | malformed => rfl
  | stray => exact absurd lawful.1 (by decide)

theorem isOk_of_item? {item : Item} (yielded : segment.item? position = some item) :
    item.isOk = !segment.isError := by
  cases segment with
  | blank | comment | skipped => simp [item?] at yielded
  | word | number | mark | malformed | stray =>
    obtain rfl := Option.some.inj yielded
    rfl

theorem blanked_of_item? {item : Item} (yielded : segment.item? position = some item) :
    segment.blanked = segment := by
  cases segment with
  | blank | comment | skipped => simp [item?] at yielded
  | word | number | mark | malformed | stray => rfl

theorem Lawful.blanked_eq (lawful : segment.Lawful .skip rest) (resumed : Bool)
    (position : Position) :
    (Cursor.mk position (segment.text ++ rest)).blanked resumed = segment.blanked.text ++
      if resumed || !segment.isError then
        (Cursor.mk (position.after segment.text) rest).blanked resumed
      else rest := by
  cases yielded : segment.item? position with
  | none =>
    have sound : segment.isError = false := by
      rcases segment.item?_cases position with ⟨-, sound⟩ | ⟨_, other, -⟩ | ⟨_, other, -⟩
      · exact sound
      · simp [yielded] at other
      · simp [yielded] at other
    have gap := lawful.skipGap_eq yielded
    have text := lawful.blankedGap_eq yielded
    rw [sound, Bool.not_false, Bool.or_true, if_pos rfl]
    cases found : ((Cursor.mk (position.after segment.text) rest).skipGap .skip).read? with
    | none =>
      rw [Cursor.blanked_of_read?_none found, Cursor.blanked_of_read?_none (gap ▸ found), text]
    | some pair =>
      obtain ⟨item, next⟩ := pair
      rw [Cursor.blanked_of_read? found, Cursor.blanked_of_read? (gap ▸ found), text,
        List.append_assoc]
  | some item =>
    have text := (item?_stands yielded).2
    have sound := isOk_of_item? yielded
    have same := blanked_of_item? yielded
    have found := lawful.read?_eq yielded
    rw [← lawful.skipGap_self yielded] at found
    rw [Cursor.blanked_of_read? found, lawful.blankedGap_eq_nil yielded, text, same, sound]
    rfl

theorem Lawful.withoutOffset_blanked (lawful : segment.Lawful .skip rest) {first second : Position}
    (same : first.withoutOffset = second.withoutOffset) :
    (first.after segment.blanked.text).withoutOffset =
      (second.after segment.text).withoutOffset := by
  cases segment with
  | skipped char =>
    have notNewline : char ≠ '\n' := by
      rintro rfl
      exact absurd lawful.2.noBlank (by decide +kernel)
    exact Position.withoutOffset_step same (by simp [notNewline])
  | blank | comment | word | number | mark | malformed | stray =>
    exact Position.withoutOffset_after same _

theorem item?_blanked {first second : Position} (same : first.withoutOffset = second.withoutOffset)
    (segment : Segment) :
    (segment.blanked.item? first).map (Item.relocate Position.withoutOffset) =
      (segment.item? second).map (Item.relocate Position.withoutOffset) := by
  cases segment with
  | blank | comment | skipped => rfl
  | word | number | mark | malformed | stray =>
    simp [blanked, item?, Item.relocate, Lexeme.relocate, LexicalError.relocate, same]

end Segment

theorem LongestRun.of_head? {keep : Char → Bool} {run rest other : List Char}
    (longest : LongestRun keep run rest) (stops : keep ' ' = false)
    (begins : other.head? = rest.head? ∨ other.head? = some ' ') : LongestRun keep run other := by
  refine longest.before fun char first => begins.imp (fun same => ?_) fun blank => ?_
  · rw [← same]
    exact first
  · rwa [Option.some.inj (first.symm.trans blank)]

theorem LongestRun.of_append {keep : Char → Bool} {run rest other : List Char}
    (longest : LongestRun keep run (rest ++ other)) : LongestRun keep run rest :=
  longest.before fun _ first => .inl (by simp [Option.mem_def.mp first])

/-- What stands behind a segment begins as it did, or with a blank for a character that begins nothing. -/
def BeginsAlike (rest blanked : List Char) : Prop :=
  blanked.head? = rest.head? ∨
    ∃ char, rest.head? = some char ∧ Unknown char ∧ blanked.head? = some ' '

theorem Segment.Lawful.blanked {segment : Segment} {rest other : List Char}
    (lawful : segment.Lawful .skip rest) (alike : BeginsAlike rest other) :
    segment.blanked.Lawful .reject other := by
  have begins : other.head? = rest.head? ∨ other.head? = some ' ' :=
    alike.imp_right fun ⟨_, _, _, space⟩ => space
  have noWord : isWordPart ' ' = false := by decide +kernel
  have noNumber : isNumberPart ' ' = false := by decide
  cases segment with
  | blank | mark => exact lawful
  | skipped => exact (by decide +kernel : Unicode.isWhiteSpace ' ' = true)
  | stray => exact absurd lawful.1 (by decide)
  | comment run =>
    -- A comment ends in front of a newline, which is never dropped.
    rcases alike with same | ⟨char, first, unknown, -⟩
    · exact ⟨lawful.kept, fun char first => lawful.stopped char (same ▸ first)⟩
    · obtain rfl : char = '\n' := by simpa using lawful.stopped char first
      exact absurd unknown.noBlank (by decide +kernel)
  | word => exact ⟨lawful.1, lawful.2.of_head? noWord begins⟩
  | number =>
    obtain ⟨nonempty, longest, spelled⟩ := lawful
    exact ⟨nonempty, longest.of_head? noNumber begins, spelled⟩
  | malformed =>
    obtain ⟨nonempty, longest, illFormed⟩ := lawful
    exact ⟨nonempty, longest.of_head? noNumber begins, illFormed⟩

theorem Segment.Lawful.of_append {policy : Policy} {segment : Segment} {rest other : List Char}
    (lawful : segment.Lawful policy (rest ++ other)) : segment.Lawful policy rest := by
  cases segment with
  | blank | skipped | mark | stray => exact lawful
  | comment => exact LongestRun.of_append lawful
  | word => exact ⟨lawful.1, lawful.2.of_append⟩
  | number => exact ⟨lawful.1, lawful.2.1.of_append, lawful.2.2⟩
  | malformed => exact ⟨lawful.1, lawful.2.1.of_append, lawful.2.2⟩

namespace Cut

variable {segments : List Segment} {rest : List Char}

theorem Covers.beginsAlike (covers : Covers .skip rest segments) :
    BeginsAlike (textOf segments ++ rest) (textOf (segments.map Segment.blanked) ++ rest) := by
  cases segments with
  | nil => exact .inl rfl
  | cons segment others =>
    obtain ⟨char, run, text, -⟩ := covers.1.exists_head
    cases segment with
    | skipped char => exact .inr ⟨char, rfl, covers.1.2, rfl⟩
    | blank | comment | word | number | mark | malformed | stray =>
      exact .inl (by simp [textOf, Segment.blanked, text])

theorem Covers.blanked (covers : Covers .skip rest segments) :
    Covers .reject rest (segments.map Segment.blanked) := by
  induction segments with
  | nil => trivial
  | cons segment others ih =>
    obtain ⟨lawful, covers⟩ := covers
    exact ⟨lawful.blanked covers.beginsAlike, ih covers⟩

theorem Covers.forall₂_blanked (covers : Covers .skip rest segments) :
    List.Forall₂ (fun char other => other = char ∨ Unknown char ∧ other = ' ')
      (textOf segments ++ rest) (textOf (segments.map Segment.blanked) ++ rest) := by
  have same (run : List Char) :
      List.Forall₂ (fun char other => other = char ∨ Unknown char ∧ other = ' ') run run :=
    List.forall₂_same.mpr fun char _ => .inl rfl
  induction segments with
  | nil => exact same rest
  | cons segment others ih =>
    obtain ⟨lawful, covers⟩ := covers
    simp only [textOf, List.map_cons, List.flatMap_cons, List.append_assoc]
    refine List.rel_append ?_ (ih covers)
    cases segment with
    | skipped char => exact .cons (.inr ⟨lawful.2, rfl⟩) .nil
    | blank | comment | word | number | mark | malformed | stray => exact same _

theorem Covers.yieldedFrom_blanked (covers : Covers .skip rest segments) {first second : Position}
    (same : first.withoutOffset = second.withoutOffset) :
    (yieldedFrom first (segments.map Segment.blanked)).map (Item.relocate Position.withoutOffset) =
      (yieldedFrom second segments).map (Item.relocate Position.withoutOffset) ∧
    (first.after (textOf (segments.map Segment.blanked))).withoutOffset =
      (second.after (textOf segments)).withoutOffset := by
  induction segments generalizing first second with
  | nil => exact ⟨rfl, same⟩
  | cons segment others ih =>
    obtain ⟨lawful, covers⟩ := covers
    obtain ⟨items, places⟩ := ih covers (lawful.withoutOffset_blanked same)
    have yielded := congrArg Option.toList (Segment.item?_blanked same segment)
    simp only [Option.toList_map] at yielded
    constructor
    · simp only [List.map_cons, yieldedFrom, List.map_append, items, yielded]
    · simpa [textOf, Position.after_append] using places

theorem yieldedFrom_isOk {segments : List Segment} {segment : Segment} (member : segment ∈ segments)
    (failed : segment.isError = true) (position : Position) :
    ∃ item ∈ yieldedFrom position segments, item.isOk = false := by
  induction segments generalizing position with
  | nil => simp at member
  | cons first others ih =>
    rcases List.mem_cons.mp member with rfl | member
    · rcases segment.item?_cases position with ⟨-, sound⟩ | ⟨_, -, sound⟩ | ⟨error, yielded, -⟩
      · simp [failed] at sound
      · simp [failed] at sound
      · exact ⟨.error error, by simp [yieldedFrom, yielded], rfl⟩
    · obtain ⟨item, behind, broken⟩ := ih member (position.after first.text)
      exact ⟨item, List.mem_append_right _ behind, broken⟩

theorem covers_append {policy : Policy} {first second : List Segment} :
    Covers policy rest (first ++ second) ↔
      Covers policy (textOf second ++ rest) first ∧ Covers policy rest second := by
  induction first with
  | nil => simp [Covers]
  | cons segment others ih =>
    simp [Covers, ih, textOf, and_assoc]

theorem Covers.alone {policy : Policy} (covers : Covers policy rest segments) :
    Covers policy [] segments := by
  induction segments with
  | nil => trivial
  | cons segment others ih =>
    obtain ⟨lawful, covers⟩ := covers
    refine ⟨?_, ih covers⟩
    rw [List.append_nil]
    exact lawful.of_append

theorem exists_blanked (resumed : Bool) (text : List Char) :
    ∃ segments rest, textOf segments ++ rest = text ∧ Covers .skip rest segments ∧
      (∀ position, (Cursor.mk position text).blanked resumed =
        textOf (segments.map Segment.blanked) ++ rest) ∧
      (rest = [] ∨ resumed = false ∧ ∃ segment ∈ segments, segment.isError = true) := by
  induction text using Segment.induction_segments .skip with
  | nil =>
    refine ⟨[], [], rfl, trivial, fun position => ?_, .inl rfl⟩
    exact Cursor.blanked_of_read?_none rfl
  | segment segment following lawful ih =>
    have blanked := lawful.blanked_eq resumed
    -- A scan that is not resumed ends with the first error.
    by_cases goesOn : (resumed || !segment.isError) = true
    · obtain ⟨segments, last, rfl, covers, others, ends⟩ := ih
      refine ⟨segment :: segments, last, ?_, ⟨lawful, covers⟩, fun position => ?_, ?_⟩
      · simp [textOf]
      · rw [blanked, if_pos goesOn, others]
        simp [textOf]
      · refine ends.imp_right (And.imp_right ?_)
        rintro ⟨other, member, failed⟩
        exact ⟨other, List.mem_cons_of_mem _ member, failed⟩
    · simp only [Bool.or_eq_true, Bool.not_eq_true', not_or, Bool.not_eq_true,
        Bool.not_eq_false] at goesOn
      refine ⟨[segment], following, ?_, ⟨lawful, trivial⟩, fun position => ?_, .inr ⟨goesOn.1, ?_⟩⟩
      · simp [textOf]
      · rw [blanked, if_neg (by simp [goesOn])]
        simp [textOf]
      · exact ⟨segment, List.mem_singleton_self _, goesOn.2⟩

theorem exists_skipped {before behind : List Char} {char : Char}
    (text : textOf segments ++ rest = before ++ char :: behind)
    (blanked : (textOf (segments.map Segment.blanked) ++ rest)[before.length]? ≠ some char) :
    ∃ first second, segments = first ++ .skipped char :: second ∧ textOf first = before ∧
      textOf second ++ rest = behind := by
  induction segments generalizing before with
  | nil =>
    obtain rfl : rest = before ++ char :: behind := text
    simp [textOf] at blanked
  | cons segment others ih =>
    rw [textOf_cons_append] at text
    rw [List.map_cons, textOf_cons_append] at blanked
    -- The character stands behind the first segment or in it.
    obtain ⟨further, rfl, same⟩ | ⟨inside, own, same⟩ :
        (∃ further, before = segment.text ++ further ∧
          textOf others ++ rest = further ++ char :: behind) ∨
        ∃ inside, segment.text = before ++ char :: inside ∧
          behind = inside ++ (textOf others ++ rest) := by
      rcases List.append_eq_append_iff.mp text with farther | ⟨_ | ⟨_, inside⟩, own, same⟩
      · exact .inl farther
      · exact .inl ⟨[], by simpa using own.symm, same.symm⟩
      · obtain ⟨rfl, follows⟩ := List.cons.inj same
        exact .inr ⟨inside, own, follows⟩
    · rw [List.getElem?_append_right, List.length_append, segment.length_blanked,
        Nat.add_sub_cancel_left] at blanked
      · obtain ⟨first, second, rfl, rfl, follows⟩ := ih same blanked
        exact ⟨segment :: first, second, rfl, rfl, follows⟩
      · rw [List.length_append, segment.length_blanked]
        exact Nat.le_add_right ..
    · -- In a segment only the skipped character itself is blanked.
      cases segment with
      | skipped other =>
        cases before with
        | nil =>
          obtain ⟨rfl, rfl⟩ := List.cons.inj own
          exact ⟨[], others, rfl, rfl, same.symm⟩
        | cons => simp [Segment.text] at own
      | blank | comment | word | number | mark | malformed | stray =>
        simp only [Segment.blanked] at blanked
        rw [own] at blanked
        simp at blanked

end Cut

end Kaleidoscope
