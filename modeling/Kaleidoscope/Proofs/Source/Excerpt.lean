import Kaleidoscope.Proofs.ParseError.Message
import Kaleidoscope.Proofs.Source.Contents
import Kaleidoscope.Proofs.Text.Lines

/-! What an excerpt points at.

The places of errors are counted while a text is read, and the lines of an excerpt are cut out of the
text afterwards. Both agree on every place where an item stands.

Main statement: the caret of an excerpt stands under the first character of what is wrong, or behind
the last line if the text has ended too early.
-/

set_option autoImplicit false

namespace Kaleidoscope

open Text (OneLine lineAcross lineBefore)

theorem Machine.exists_complaint {State Result : Type} {machine : Machine State Result}
    {state : State} {lexemes : List Lexeme} {last : Item} {error : ParseError}
    (failed : machine.judge last state lexemes = .error error) :
    ∃ (item : Item) (expectation : Expectation), item ∈ lexemes.map Except.ok ++ [last] ∧
      error = item.complaint expectation := by
  have same : lexemes.map Lexeme.token = lexemes.map Lexeme.token := rfl
  rcases machine.judge_cases same (Eq.refl last.content) state with ⟨result, judged, -⟩ |
    ⟨index, item, -, expectation, found, -, -, judged, -⟩
  · rw [judged] at failed
    cases failed
  · rw [judged] at failed
    exact ⟨item, expectation, List.mem_of_getElem? found, (Except.error.inj failed).symm⟩

namespace Segment

variable {policy : Policy} {segment : Segment} {rest : List Char} {position : Position} {item : Item}

-- What ends a line begins nothing that is yielded.
theorem Lawful.exists_inner (lawful : segment.Lawful policy rest)
    (yielded : segment.item? position = some item) :
    ∃ char others, segment.text = char :: others ∧ char ≠ '\n' ∧ char ≠ '\r' := by
  obtain ⟨char, others, text, role⟩ := lawful.exists_head
  have notBlank : segment.role ≠ .blank := by
    cases segment with
    | blank => simp [item?] at yielded
    | _ => simp [Segment.role]
  have newline : roleOf '\n' = .blank := by decide +kernel
  have carriageReturn : roleOf '\r' = .blank := by decide +kernel
  refine ⟨char, others, text, ?_, ?_⟩
  · rintro rfl
    exact notBlank (role.symm.trans newline)
  · rintro rfl
    exact notBlank (role.symm.trans carriageReturn)

end Segment

/-- The item stands between the two parts of the source, in front of the second one. -/
structure Item.Between (source : String) (item : Item) (before rest : List Char) : Prop where
  parts : source.toList = before ++ rest
  position : item.position = .behind (String.ofList before)
  head : item.text.toList.head? = rest.head?
  inner : ∀ char ∈ rest.head?, char ≠ '\n' ∧ char ≠ '\r'
  ended : ∀ expectation, (item.complaint expectation).AtEnd ↔ rest = []
  malformed : ∀ run place, item = .error (.malformedNumber run place) → OneLine run

theorem Item.Stands.exists_between {policy : Policy} {source : String} {item : Item}
    (stands : item.Stands policy .start source.toList) :
    ∃ before rest, item.Between source before rest := by
  obtain ⟨before, segment, rest, parts, lawful, yielded⟩ := stands
  obtain ⟨position, text⟩ := Segment.item?_stands yielded
  obtain ⟨char, others, begun, notNewline, notReturn⟩ := lawful.exists_inner yielded
  refine ⟨before, segment.text ++ rest, parts, ?_, ?_, ?_, ?_, ?_⟩
  · rw [position, ← Position.after_start, String.toList_ofList]
  · rw [text, begun]
    rfl
  · rw [begun]
    rintro other same
    obtain rfl : char = other := Option.some.inj same
    exact ⟨notNewline, notReturn⟩
  · intro expectation
    refine iff_of_false ?_ (by simp [begun])
    cases item with
    | error => exact id
    | ok lexeme =>
      have token := Cursor.read?_token_ne_endOfInput (lawful.read?_eq yielded)
      exact mt Lexeme.kind_eq_endOfInput_iff.mp token
  · rintro run place rfl
    cases segment with
    | blank | comment | skipped | word | number | mark | stray => simp [Segment.item?] at yielded
    | malformed digits =>
      obtain ⟨rfl, -⟩ : String.ofList digits = run ∧ _ := by simpa [Segment.item?] using yielded
      rw [OneLine, String.toList_ofList]
      intro member
      exact absurd (lawful.2.1.kept _ member) (by decide)

namespace Source

theorem exists_between {policy : Policy} {source : String} {item : Item}
    (member : item ∈ items policy source) : ∃ before rest, item.Between source before rest := by
  rcases stands_of_mem member with rfl | stands
  · refine ⟨source.toList, [], (List.append_nil _).symm, ?_, rfl, ?_, ?_, ?_⟩
    · rw [String.ofList_toList, ← Position.after_start]
      rfl
    · simp
    · exact fun _ => iff_of_true rfl rfl
    · simp
  · exact stands.exists_between

theorem exists_complaint {policy : Policy} {source : String} {error : ParseError}
    (failed : program policy source = .error error ∨ definition policy source = .error error) :
    ∃ (item : Item) (expectation : Expectation), item ∈ items policy source ∧
      error = item.complaint expectation := by
  rw [program_eq, definition_eq] at failed
  rw [items_eq]
  rcases failed with failed | failed
  · exact Machine.exists_complaint failed
  · exact Machine.exists_complaint failed

end Source

/-- An excerpt of three lines: the message, the line across the place between the two parts of the
source, and as many blanks as there are characters in front of this place, with the caret behind them.
What the caret points at is the first character of the item, and it points at nothing where the text
should have gone on. -/
structure ParseError.Points (error : ParseError) (source : String) (item : Item)
    (before rest : List Char) : Prop where
  parts : source.toList = before ++ rest
  offset : error.position.offset = (String.ofList before).utf8ByteSize
  lines : (error.excerpt source).toList.splitOn '\n' =
    ["error: ".toList ++ error.message.toList, "  ".toList ++ lineAcross before rest,
      "  ".toList ++ List.replicate (lineBefore before).length ' ' ++ ['^']]
  within : (lineBefore before).length ≤ (lineAcross before rest).length
  pointed : (lineAcross before rest)[(lineBefore before).length]? = item.text.toList.head?
  ended : (lineAcross before rest)[(lineBefore before).length]? = none ↔ error.AtEnd

theorem Item.Between.points {source : String} {item : Item} {before rest : List Char}
    (between : item.Between source before rest) (expectation : Expectation) :
    (item.complaint expectation).Points source item before rest := by
  have place : (item.complaint expectation).position = .behind (String.ofList before) := by
    rw [position_complaint, between.position]
  have line : Text.line source (item.complaint expectation).position.line =
      String.ofList (lineAcross before rest) := by
    rw [Text.line, place, between.parts, ← Text.getElem?_lines]
    simp [Position.behind]
  have message : OneLine (item.complaint expectation).message := by
    refine ParseError.oneLine_message fun run position same => between.malformed run position ?_
    cases item with
    | ok => simp [complaint, Parser.refuse] at same
    | error error => exact congrArg Except.error (ParseError.lexical.inj same)
  obtain ⟨behind, across, head⟩ := Text.exists_lineAcross_eq before between.inner
  have pointed : (lineAcross before rest)[(lineBefore before).length]? = rest.head? := by
    rw [across, List.getElem?_append_right (Nat.le_refl _), Nat.sub_self, ← head,
      List.head?_eq_getElem?]
  refine ⟨between.parts, ?_, ?_, ?_, ?_, ?_⟩
  · rw [place]
    rfl
  · have oneLine : OneLine (String.ofList (lineAcross before rest)) := by
      rw [OneLine, String.toList_ofList]
      exact Text.newline_notMem_lineAcross before rest
    rw [ParseError.splitOn_excerpt message (line ▸ oneLine), line, place]
    simp [Position.behind, lineBefore]
  · rw [across, List.length_append]
    exact Nat.le_add_right ..
  · rw [pointed, between.head]
  · rw [pointed, between.ended, List.head?_eq_none_iff]

namespace Source

theorem excerpt_points (policy : Policy) (source : String) (error : ParseError)
    (failed : program policy source = .error error ∨ definition policy source = .error error) :
    ∃ (item : Item) (expectation : Expectation) (before rest : List Char),
      item ∈ items policy source ∧ error = item.complaint expectation ∧
        error.Points source item before rest := by
  obtain ⟨item, expectation, member, rfl⟩ := exists_complaint failed
  obtain ⟨before, rest, between⟩ := exists_between member
  exact ⟨item, expectation, before, rest, member, rfl, between.points expectation⟩

-- Characters of two bytes and the return at the end of the line do not move the caret.
theorem excerpt_points_unknown :
    program .reject "def \u00e4(x)\r\n  \u00fc + % y\r\nz" =
      .error (.lexical (.unknownCharacter '%' ⟨18, 2, 7⟩)) ∧
    (∃ (item : Item) (expectation : Expectation) (before rest : List Char),
      item ∈ items .reject "def \u00e4(x)\r\n  \u00fc + % y\r\nz" ∧
      .lexical (.unknownCharacter '%' ⟨18, 2, 7⟩) = item.complaint expectation ∧
      (ParseError.lexical (.unknownCharacter '%' ⟨18, 2, 7⟩)).Points
        "def \u00e4(x)\r\n  \u00fc + % y\r\nz" item before rest) ∧
    (ParseError.lexical (.unknownCharacter '%' ⟨18, 2, 7⟩)).excerpt
        "def \u00e4(x)\r\n  \u00fc + % y\r\nz" =
      "error: 2:7: unknown character '%'\n    \u00fc + % y\n        ^" := by
  have failed : program .reject "def \u00e4(x)\r\n  \u00fc + % y\r\nz" =
      .error (.lexical (.unknownCharacter '%' ⟨18, 2, 7⟩)) := by decide +kernel
  exact ⟨failed, excerpt_points _ _ _ (.inl failed), by decide +kernel⟩

end Source

end Kaleidoscope
