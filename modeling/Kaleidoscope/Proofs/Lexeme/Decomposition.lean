import Kaleidoscope.Proofs.Lexeme.Movement
import Kaleidoscope.Proofs.Lexeme.Results
import Kaleidoscope.Proofs.Lexeme.Segments

/-! A scan reads segment after segment.

Main statements: the iterator yields exactly the items of the one way to cut the text into segments,
and each of these items stands in the text.
-/

set_option autoImplicit false

namespace Kaleidoscope

open Lexeme (isWordStart isWordPart isNumberPart Unknown)
open Segment (roleOf)

namespace Cursor

/-- The place where the text of a cursor ends, which no reading changes. -/
def ending (cursor : Cursor) : Position := cursor.position.after cursor.rest

theorem Passes.ending {cursor next : Cursor} {passed : List Char}
    (passes : cursor.Passes passed next) : next.ending = cursor.ending := by
  rw [Cursor.ending, Cursor.ending, passes.position, passes.rest, Position.after_append]

theorem scan_ending (policy : Policy) (cursor : Cursor) :
    (cursor.scan policy).ending = cursor.ending := by
  induction cursor using Cursor.scan.induct policy with
  | case1 cursor missing =>
    obtain ⟨gap, passes⟩ := cursor.skipGap_passes policy
    have whole := passes.ending
    rw [Cursor.ending, read?_eq_none_iff.mp missing] at whole
    rw [scan_of_read?_none missing]
    exact whole
  | case2 cursor item next found ih =>
    obtain ⟨gap, passes⟩ := cursor.skipGap_passes policy
    obtain ⟨-, further⟩ := read?_passes found
    rw [scan_of_read? found]
    exact ih.trans (passes.trans further).ending

theorem scan_congr {policy : Policy} {first second : Cursor}
    (same : first.skipGap policy = second.skipGap policy) :
    first.scan policy = second.scan policy := by
  cases found : (first.skipGap policy).read? with
  | none => rw [scan_of_read?_none found, scan_of_read?_none (same ▸ found), same]
  | some pair =>
    obtain ⟨item, next⟩ := pair
    have other : (second.skipGap policy).read? = some (item, next) := same ▸ found
    rw [scan_of_read? found, scan_of_read? other]

theorem scan_nil (policy : Policy) (position : Position) :
    (Cursor.mk position []).scan policy = ⟨[], position⟩ :=
  scan_of_read?_none rfl

end Cursor

/-- The scan with more items in front of it. -/
def Scan.behind (items : List Item) (scan : Scan) : Scan := ⟨items ++ scan.items, scan.ending⟩

namespace Segment

theorem gapStep_eq (policy : Policy) (char : Char) :
    Lexeme.gapStep policy false char =
      match roleOf char with
      | .blank => some false
      | .comment => some true
      | .unknown => if policy = .skip then some false else none
      | .word | .number | .mark => none := by
  unfold Lexeme.gapStep roleOf Lexeme.startsLexeme
  by_cases white : Unicode.isWhiteSpace char = true
  · simp [white]
  by_cases hash : char = '#'
  · subst hash
    simp [white]
  by_cases first : isWordStart char = true
  · simp [white, hash, first]
  by_cases part : isNumberPart char = true
  · simp [white, hash, first, part]
  by_cases spelled : (Token.ofMark? char).isSome = true
  · simp [white, hash, first, part, spelled]
  · simp [white, hash, first, part, spelled]

theorem skipGapFrom_comment {run rest : List Char} (longest : LongestRun (· != '\n') run rest)
    (policy : Policy) (position : Position) :
    Cursor.skipGapFrom policy true position (run ++ rest) =
      Cursor.skipGapFrom policy false (position.after run) rest := by
  induction run generalizing position with
  | nil =>
    cases rest with
    | nil => rfl
    | cons char rest =>
      -- The newline ends the comment, and is a blank behind it.
      obtain rfl : char = '\n' := by simpa using longest.stopped char rfl
      have blank : Unicode.isWhiteSpace '\n' = true := by decide +kernel
      simp [Cursor.skipGapFrom, Lexeme.gapStep, blank]
  | cons char run ih =>
    have inside : (char != '\n') = true := longest.kept char (by simp)
    simp only [List.cons_append, Cursor.skipGapFrom, Lexeme.gapStep, if_true, inside]
    exact ih longest.tail _

theorem item?_cases (segment : Segment) (position : Position) :
    (segment.item? position = none ∧ segment.isError = false) ∨
    (∃ lexeme, segment.item? position = some (.ok lexeme) ∧ segment.isError = false) ∨
    ∃ error, segment.item? position = some (.error error) ∧ segment.isError = true := by
  cases segment <;> simp [item?, isError]

variable {policy : Policy} {segment : Segment} {rest : List Char} {position : Position}

theorem item?_stands {item : Item} (yielded : segment.item? position = some item) :
    item.position = position ∧ item.text.toList = segment.text := by
  cases segment with
  | blank | comment | skipped => simp [item?] at yielded
  | word | number | mark | malformed | stray =>
    obtain rfl := Option.some.inj yielded
    simp [Item.position, Item.text, LexicalError.position, LexicalError.text, text]

theorem Lawful.skipGap_eq (lawful : segment.Lawful policy rest)
    (gap : segment.item? position = none) :
    (Cursor.mk position (segment.text ++ rest)).skipGap policy =
      (Cursor.mk (position.after segment.text) rest).skipGap policy := by
  obtain ⟨char, others, text, role⟩ := lawful.exists_head
  have step := gapStep_eq policy char
  rw [role] at step
  unfold Cursor.skipGap
  cases segment with
  | blank char =>
    obtain ⟨rfl, rfl⟩ := List.cons.inj text
    simp [Segment.text, Cursor.skipGapFrom, step, Segment.role]
  | comment run =>
    obtain ⟨rfl, rfl⟩ := List.cons.inj text
    have inside := skipGapFrom_comment lawful policy (position.step '#')
    simpa [Segment.text, Cursor.skipGapFrom, step, Segment.role] using inside
  | skipped char =>
    obtain ⟨rfl, -⟩ := lawful
    obtain ⟨rfl, rfl⟩ := List.cons.inj text
    simp [Segment.text, Cursor.skipGapFrom, step, Segment.role]
  | word | number | mark | malformed | stray => simp [item?] at gap

theorem Lawful.skipGap_self (lawful : segment.Lawful policy rest) {item : Item}
    (yielded : segment.item? position = some item) :
    (Cursor.mk position (segment.text ++ rest)).skipGap policy =
      ⟨position, segment.text ++ rest⟩ := by
  obtain ⟨char, others, text, role⟩ := lawful.exists_head
  have step := gapStep_eq policy char
  rw [role] at step
  -- What is unknown ends a gap only where it is not skipped.
  have stopped : Lexeme.gapStep policy false char = none := by
    cases segment with
    | blank | comment | skipped => simp [item?] at yielded
    | word | number | mark | malformed => exact step
    | stray char => simpa [Segment.role, lawful.1] using step
  simp [Cursor.skipGap, text, Cursor.skipGapFrom, stopped]

theorem read?_of_word {run : List Char} (begun : run.head?.any isWordStart = true)
    (longest : LongestRun isWordPart run rest) :
    (Cursor.mk position (run ++ rest)).read? =
      some (.ok ⟨Token.ofWord (String.ofList run), String.ofList run, position⟩,
        ⟨position.after run, rest⟩) := by
  have taken := longest.takeWhile_eq
  have left := longest.dropWhile_eq
  cases run with
  | nil => simp at begun
  | cons char run =>
    have first : isWordStart char = true := by simpa using begun
    have found : (Cursor.mk position (char :: run ++ rest)).read? = _ :=
      Cursor.read?_eq_some_iff.mpr ⟨char, run ++ rest, rfl, .word first⟩
    rw [found]
    simp only [Cursor.word, Cursor.skipWhile, taken, left]

theorem read?_of_number {run : List Char} (nonempty : run ≠ [])
    (longest : LongestRun isNumberPart run rest) :
    (Cursor.mk position (run ++ rest)).read? =
      some ((Cursor.mk position (run ++ rest)).number, ⟨position.after run, rest⟩) := by
  have taken := longest.takeWhile_eq
  have left := longest.dropWhile_eq
  obtain ⟨char, run, rfl⟩ := List.exists_cons_of_ne_nil nonempty
  have part : isNumberPart char = true := longest.kept char (by simp)
  have noWord := Lexeme.isWordStart_of_isNumberPart part
  have found : (Cursor.mk position (char :: run ++ rest)).read? = _ :=
    Cursor.read?_eq_some_iff.mpr ⟨char, run ++ rest, rfl, .number noWord part⟩
  rw [found]
  simp only [Cursor.skipWhile, taken, left]

theorem read?_of_single {char : Char} (noWord : isWordStart char = false)
    (noNumber : isNumberPart char = false) :
    (Cursor.mk position (char :: rest)).read? =
      some ((Cursor.mk position (char :: rest)).mark char, ⟨position.step char, rest⟩) :=
  Cursor.read?_eq_some_iff.mpr ⟨char, rest, rfl, .mark noWord noNumber⟩

theorem Lawful.read?_eq (lawful : segment.Lawful policy rest) {item : Item}
    (yielded : segment.item? position = some item) :
    (Cursor.mk position (segment.text ++ rest)).read? =
      some (item, ⟨position.after segment.text, rest⟩) := by
  cases segment with
  | blank | comment | skipped => simp [item?] at yielded
  | word run =>
    obtain rfl := Option.some.inj yielded
    simp only [Segment.text]
    rw [read?_of_word lawful.1 lawful.2, Lexeme.ofWord_eq]
  | number run value =>
    obtain ⟨nonempty, longest, -, spelled⟩ := lawful
    obtain rfl := Option.some.inj yielded
    simp only [Segment.text]
    rw [read?_of_number nonempty longest]
    simp only [Cursor.number, longest.takeWhile_eq, spelled]
  | malformed run =>
    obtain ⟨nonempty, longest, illFormed⟩ := lawful
    obtain rfl := Option.some.inj yielded
    have unspelled : Binary64.ofLiteral? run = none := by
      rw [← Option.not_isSome_iff_eq_none, Lexeme.isSome_ofLiteral?_iff longest.kept]
      exact illFormed
    simp only [Segment.text]
    rw [read?_of_number nonempty longest]
    simp only [Cursor.number, longest.takeWhile_eq, unspelled]
  | mark char token =>
    obtain ⟨-, -, noWord, noNumber⟩ := Lexeme.mark_classes _ lawful
    obtain rfl := Option.some.inj yielded
    simp only [Segment.text, List.singleton_append]
    rw [read?_of_single noWord noNumber]
    simp only [Cursor.mark, Lexeme.mem_marks_iff.mp lawful]
    rfl
  | stray char =>
    obtain ⟨-, unknown⟩ := lawful
    obtain rfl := Option.some.inj yielded
    have unspelled := unknown.ofMark?_eq
    simp only [Segment.text, List.singleton_append]
    rw [read?_of_single unknown.noWord unknown.noNumber]
    simp only [Cursor.mark, unspelled]
    rfl

theorem Lawful.scan_eq (lawful : segment.Lawful policy rest) (position : Position) :
    (Cursor.mk position (segment.text ++ rest)).scan policy =
      ((Cursor.mk (position.after segment.text) rest).scan policy).behind
        (segment.item? position).toList := by
  cases yielded : segment.item? position with
  | none => exact Cursor.scan_congr (lawful.skipGap_eq yielded)
  | some item =>
    have found := lawful.read?_eq yielded
    rw [← lawful.skipGap_self yielded] at found
    exact Cursor.scan_of_read? found

end Segment

/-- A lawful segment of the text, in its place, yields the item. -/
def Item.Stands (policy : Policy) (position : Position) (text : List Char) (item : Item) : Prop :=
  ∃ (before : List Char) (segment : Segment) (rest : List Char),
    text = before ++ (segment.text ++ rest) ∧ segment.Lawful policy rest ∧
      segment.item? (position.after before) = some item

theorem Item.Stands.behind {policy : Policy} {position : Position} {text : List Char} {item : Item}
    (passed : List Char) (stands : item.Stands policy (position.after passed) text) :
    item.Stands policy position (passed ++ text) := by
  obtain ⟨before, segment, rest, rfl, lawful, yielded⟩ := stands
  rw [← Position.after_append] at yielded
  exact ⟨passed ++ before, segment, rest, (List.append_assoc ..).symm, lawful, yielded⟩

namespace Cut

variable {policy : Policy} {rest : List Char}

-- A cut goes on behind a gap and behind a lexeme, and it ends with an error.
theorem Fits.cons_cases {segment : Segment} {others : List Segment}
    (fits : Fits policy rest (segment :: others)) (position : Position) :
    segment.item? position = none ∧ Fits policy rest others ∨
    (∃ lexeme, segment.item? position = some (.ok lexeme) ∧ Fits policy rest others) ∨
    ∃ error, segment.item? position = some (.error error) ∧ others = [] := by
  obtain ⟨-, behind⟩ := fits
  rcases segment.item?_cases position with ⟨gap, sound⟩ | ⟨lexeme, yielded, sound⟩ |
    ⟨error, yielded, failed⟩
  · exact .inl ⟨gap, by simpa [sound] using behind⟩
  · exact .inr (.inl ⟨lexeme, yielded, by simpa [sound] using behind⟩)
  · exact .inr (.inr ⟨error, yielded, by simpa [failed] using behind⟩)

theorem itemsFrom_eq {segments : List Segment} (fits : Fits policy rest segments)
    (position : Position) :
    itemsFrom position segments =
      ((Cursor.mk position (textOf segments ++ rest)).scan policy).untilError := by
  -- The induction is on the segments, and each takes the cursor behind its text.
  induction segments generalizing position with
  | nil =>
    obtain rfl : rest = [] := fits
    rw [show textOf [] ++ [] = ([] : List Char) from rfl, Cursor.scan_nil]
    rfl
  | cons segment others ih =>
    rw [textOf_cons_append, fits.1.scan_eq, itemsFrom]
    rcases fits.cons_cases position with ⟨gap, further⟩ | ⟨lexeme, yielded, further⟩ |
      ⟨error, yielded, -⟩
    · rw [gap]
      exact ih further _
    · rw [yielded]
      simp only [ih further]
      rfl
    · rw [yielded]
      rfl

theorem items_eq {source : String} {cut : Cut} (whole : cut.text = source.toList)
    (lawful : cut.Lawful policy) : cut.items = Source.items policy source := by
  have items := itemsFrom_eq lawful .start
  rw [show textOf cut.segments ++ cut.rest = source.toList from whole] at items
  exact items

theorem stands_of_mem {segments : List Segment} {position : Position} {item : Item}
    (fits : Fits policy rest segments) (member : item ∈ itemsFrom position segments) :
    item = .ok (.ending (position.after (textOf segments ++ rest))) ∨
      item.Stands policy position (textOf segments ++ rest) := by
  induction segments generalizing position with
  | nil =>
    obtain rfl : rest = [] := fits
    exact .inl (List.mem_singleton.mp member)
  | cons segment others ih =>
    have lawful := fits.1
    rw [textOf_cons_append]
    have farther (fits : Fits policy rest others)
        (member : item ∈ itemsFrom (position.after segment.text) others) := ih fits member
    rw [← Position.after_append] at farther
    rcases fits.cons_cases position with ⟨gap, further⟩ | ⟨lexeme, yielded, further⟩ |
      ⟨error, yielded, -⟩
    · simp only [itemsFrom, gap] at member
      exact (farther further member).imp_right (.behind segment.text)
    · simp only [itemsFrom, yielded] at member
      rcases List.mem_cons.mp member with rfl | member
      · exact .inr ⟨[], segment, _, rfl, lawful, yielded⟩
      · exact (farther further member).imp_right (.behind segment.text)
    · simp only [itemsFrom, yielded] at member
      obtain rfl := List.mem_singleton.mp member
      exact .inr ⟨[], segment, _, rfl, lawful, yielded⟩

end Cut

namespace Source

theorem stands_of_mem {policy : Policy} {source : String} {item : Item}
    (member : item ∈ items policy source) :
    item = .ok (.ending (Position.start.after source.toList)) ∨
      item.Stands policy .start source.toList := by
  obtain ⟨cut, ⟨whole, lawful⟩, -⟩ := Cut.existsUnique policy source.toList
  rw [← Cut.items_eq whole lawful] at member
  rw [← whole]
  exact Cut.stands_of_mem lawful member

theorem last_ending {policy : Policy} {source : String} :
    last policy source = .ok (.ending (Position.start.after source.toList)) ∨
      ∃ error, last policy source = .error error := by
  have ending := Cursor.scan_ending policy (.start source)
  rcases (scan policy source).last_cases with ended | failed
  · rw [show (scan policy source).ending = _ from ending] at ended
    exact .inl ended
  · exact .inr failed

/-- A text is cut in one way only, and what the iterator yields are the items of this cut. -/
theorem exists_cut (policy : Policy) (source : String) :
    ∃ cut : Cut, cut.text = source.toList ∧ cut.Lawful policy ∧
      (∀ other : Cut, other.text = source.toList → other.Lawful policy → other = cut) ∧
      (∀ items, (Lexer.start policy source).Yields items ↔ items = cut.items) ∧
      ∃ (lexemes : List Lexeme) (last : Item), cut.items = lexemes.map .ok ++ [last] ∧
        (∀ lexeme ∈ lexemes, lexeme.token ≠ .endOfInput) ∧
        (last = .ok (.ending (Position.start.after source.toList)) ∨
          ∃ error, last = .error error) := by
  obtain ⟨cut, ⟨whole, lawful⟩, unique⟩ := Cut.existsUnique policy source.toList
  have items := cut.items_eq whole lawful
  refine ⟨cut, whole, lawful, ?_, ?_, lexemes policy source, last policy source, ?_, ?_, ?_⟩
  · intro other whole lawful
    exact unique other ⟨whole, lawful⟩
  · intro yielded
    rw [items]
    exact Lexer.yields_iff
  · rw [items]
    exact items_eq policy source
  · intro lexeme member
    exact token_ne_endOfInput member
  · exact last_ending

end Source

end Kaleidoscope
