import Kaleidoscope.Proofs.Source.Reading
import Kaleidoscope.Proofs.Text.Places
import Mathlib.Logic.Function.Iterate

/-! Lexers on the move.

Whatever a lexer is asked to do, it moves forward one character at a time, so it never leaves the
boundaries between characters, and its place can always be told from what it has passed.

Main statement: in every run, with copies taken at any time, each lexer stands where its source says,
never moves back, and yields only what stands in the source at the place that is given.
-/

set_option autoImplicit false

namespace Kaleidoscope

def LexicalError.text : LexicalError → String
  | .unknownCharacter char _ => String.singleton char
  | .malformedNumber text _ => text

namespace Item

def text : Item → String
  | .ok lexeme => lexeme.text
  | .error error => error.text

def position : Item → Position
  | .ok lexeme => lexeme.position
  | .error error => error.position

end Item

namespace Cursor

/-- Moving forward over the given characters leads from one cursor to the other. -/
structure Passes (cursor : Cursor) (passed : List Char) (next : Cursor) : Prop where
  rest : cursor.rest = passed ++ next.rest
  position : next.position = cursor.position.after passed

theorem Passes.refl (cursor : Cursor) : cursor.Passes [] cursor := ⟨rfl, rfl⟩

theorem Passes.trans {first second third : Cursor} {passed further : List Char}
    (left : first.Passes passed second) (right : second.Passes further third) :
    first.Passes (passed ++ further) third where
  rest := by rw [left.rest, right.rest, List.append_assoc]
  position := by rw [right.position, left.position, Position.after_append]

theorem advance_passes (cursor : Cursor) : cursor.Passes (cursor.rest.take 1) cursor.advance := by
  obtain ⟨position, rest⟩ := cursor
  cases rest with
  | nil => exact .refl _
  | cons char rest => exact ⟨rfl, rfl⟩

theorem skipWhile_passes (keep : Char → Bool) (cursor : Cursor) :
    cursor.Passes (cursor.rest.takeWhile keep) (cursor.skipWhile keep) where
  rest := List.takeWhile_append_dropWhile.symm
  position := rfl

theorem skipGapFrom_passes (policy : Policy) (comment : Bool) (position : Position)
    (text : List Char) :
    ∃ passed, (Cursor.mk position text).Passes passed (skipGapFrom policy comment position text) := by
  induction text generalizing comment position with
  | nil => exact ⟨[], .refl _⟩
  | cons char rest ih =>
    unfold skipGapFrom
    cases Lexeme.gapStep policy comment char with
    | none => exact ⟨[], .refl _⟩
    | some inside =>
      obtain ⟨passed, passes⟩ := ih inside (position.step char)
      have moved : (Cursor.mk position (char :: rest)).Passes [char] ⟨position.step char, rest⟩ :=
        advance_passes _
      exact ⟨_, moved.trans passes⟩

theorem skipGap_passes (policy : Policy) (cursor : Cursor) :
    ∃ passed, cursor.Passes passed (cursor.skipGap policy) :=
  skipGapFrom_passes policy false cursor.position cursor.rest

theorem number_stands (cursor : Cursor) : cursor.number.position = cursor.position ∧
    cursor.number.text.toList = cursor.rest.takeWhile Lexeme.isNumberPart := by
  unfold number
  dsimp only
  split <;> simp [Item.position, Item.text, LexicalError.position, LexicalError.text]

theorem mark_stands (cursor : Cursor) (char : Char) :
    (cursor.mark char).position = cursor.position ∧ (cursor.mark char).text.toList = [char] := by
  unfold mark
  split <;> simp [Item.position, Item.text, LexicalError.position, LexicalError.text]

theorem read?_passes {cursor next : Cursor} {item : Item}
    (found : cursor.read? = some (item, next)) :
    item.position = cursor.position ∧ cursor.Passes item.text.toList next := by
  obtain ⟨char, rest, same, reads⟩ := read?_eq_some_iff.mp found
  cases reads with
  | word =>
    refine ⟨rfl, ?_⟩
    simpa [word, Item.text] using skipWhile_passes Lexeme.isWordPart cursor
  | number =>
    obtain ⟨place, text⟩ := number_stands cursor
    rw [text]
    exact ⟨place, skipWhile_passes Lexeme.isNumberPart cursor⟩
  | mark =>
    obtain ⟨place, text⟩ := mark_stands cursor char
    have passes := advance_passes cursor
    rw [same] at passes
    rw [text]
    exact ⟨place, passes⟩

theorem Passes.iterate_advance {cursor next : Cursor} {passed : List Char}
    (passes : cursor.Passes passed next) : advance^[passed.length] cursor = next := by
  induction passed generalizing cursor with
  | nil =>
    obtain ⟨position, rest⟩ := cursor
    obtain ⟨rest, position⟩ := passes
    cases next
    simp_all
  | cons char passed ih =>
    obtain ⟨position, rest⟩ := cursor
    obtain rfl : rest = char :: (passed ++ next.rest) := passes.rest
    rw [List.length_cons, Function.iterate_succ_apply]
    exact ih ⟨rfl, passes.position⟩

/-- A cursor stands between two parts of a source. -/
structure Parts (source before rest : String) (cursor : Cursor) : Prop where
  whole : source = before ++ rest
  stands : cursor = ⟨.behind before, rest.toList⟩

theorem start_parts (source : String) : (start source).Parts source "" source where
  whole := by simp
  stands := rfl

theorem Passes.parts {source before rest : String} {cursor next : Cursor} {passed : List Char}
    (passes : cursor.Passes passed next) (parts : cursor.Parts source before rest) :
    next.Parts source (before ++ String.ofList passed) (String.ofList next.rest) := by
  obtain ⟨left, moved⟩ := passes
  obtain ⟨rfl, rfl⟩ := parts
  constructor
  · rw [String.append_assoc, ← String.ofList_append, ← left, String.ofList_toList]
  · rw [Position.behind_append, ← moved, String.toList_ofList]

theorem Parts.iterate_advance {source before rest : String} {cursor : Cursor}
    (parts : cursor.Parts source before rest) (count : Nat) :
    ∃ before rest, (advance^[count] cursor).Parts source before rest := by
  induction count generalizing cursor before rest with
  | zero => exact ⟨before, rest, parts⟩
  | succ count ih =>
    rw [Function.iterate_succ_apply]
    exact ih (cursor.advance_passes.parts parts)

/-- Where a cursor stands, told from the source alone. -/
structure Placed (source : String) (cursor : Cursor) : Prop where
  parts : ∃ before rest, source = before ++ rest ∧ cursor.position = .behind before ∧
    cursor.current? = rest.toList.head?
  boundary : String.Pos.Raw.IsValid source ⟨cursor.position.offset⟩
  offset_le : cursor.position.offset ≤ source.utf8ByteSize
  ended : cursor.current? = none ↔ cursor.position.offset = source.utf8ByteSize
  line_le : cursor.position.line ≤ source.utf8ByteSize + 1
  column_le : cursor.position.column ≤ source.utf8ByteSize + 1

theorem Parts.placed {source before rest : String} {cursor : Cursor}
    (parts : cursor.Parts source before rest) : cursor.Placed source := by
  obtain ⟨rfl, rfl⟩ := parts
  have size : (before ++ rest).utf8ByteSize = before.utf8ByteSize + rest.utf8ByteSize :=
    String.utf8ByteSize_append
  obtain ⟨line_le, column_le⟩ := Position.behind_le before
  constructor
  · exact ⟨before, rest, rfl, rfl, rfl⟩
  · exact String.Pos.Raw.isValid_iff_exists_append.mpr ⟨before, rest, rfl, rfl⟩
  · rw [size]
    exact Nat.le_add_right ..
  · rw [size]
    simp [current?, Position.behind]
  · exact Nat.le_trans line_le (by omega)
  · exact Nat.le_trans column_le (by omega)

end Cursor

namespace Lexer

inductive Operation where
  | advance
  | skipBlanks
  | read
  | next
  deriving DecidableEq, Repr

def Operation.perform : Operation → Lexer → Option Item × Lexer
  | .advance, lexer => (none, lexer.advance)
  | .skipBlanks, lexer => (none, lexer.skipBlanks)
  | .read, lexer => (some lexer.read.1, lexer.read.2)
  | .next, lexer => lexer.next?

theorem read_passes (lexer : Lexer) :
    ∃ gap, lexer.cursor.Passes (gap ++ lexer.read.1.text.toList) lexer.read.2.cursor ∧
      lexer.read.1.position = lexer.cursor.position.after gap ∧
      ∀ lexeme, lexer.read.1 = .ok lexeme → lexeme.token = .endOfInput →
        lexeme.text = "" ∧ lexer.read.2.cursor.rest = [] := by
  obtain ⟨gap, passes⟩ := lexer.cursor.skipGap_passes lexer.policy
  refine ⟨gap, ?_⟩
  unfold read
  dsimp only
  -- Behind the gap an item is read; only the end of the text has no text of its own.
  cases found : (lexer.cursor.skipGap lexer.policy).read? with
  | none =>
    refine ⟨by simpa [Item.text, Lexeme.ending] using passes, passes.position, ?_⟩
    rintro lexeme ⟨⟩ -
    exact ⟨rfl, Cursor.read?_eq_none_iff.mp found⟩
  | some pair =>
    obtain ⟨item, cursor⟩ := pair
    obtain ⟨place, further⟩ := Cursor.read?_passes found
    refine ⟨passes.trans further, place.trans passes.position, ?_⟩
    rintro lexeme rfl ended
    exact absurd ended (Cursor.read?_token_ne_endOfInput found)

theorem read_source (lexer : Lexer) : lexer.read.2.source = lexer.source := by
  unfold read
  dsimp only
  split <;> rfl

theorem perform_source (operation : Operation) (lexer : Lexer) :
    (operation.perform lexer).2.source = lexer.source := by
  cases operation with
  | advance | skipBlanks => rfl
  | read => exact lexer.read_source
  | next =>
    simp only [Operation.perform, next?]
    split
    · rfl
    · exact lexer.read_source

theorem perform_passes (operation : Operation) (lexer : Lexer) :
    ∃ passed, lexer.cursor.Passes passed (operation.perform lexer).2.cursor := by
  cases operation with
  | advance => exact ⟨_, lexer.cursor.advance_passes⟩
  | skipBlanks => exact ⟨_, lexer.cursor.skipWhile_passes Unicode.isWhiteSpace⟩
  | read =>
    obtain ⟨gap, passes, -⟩ := lexer.read_passes
    exact ⟨_, passes⟩
  | next =>
    simp only [Operation.perform, next?]
    split
    · exact ⟨[], .refl _⟩
    · obtain ⟨gap, passes, -⟩ := lexer.read_passes
      exact ⟨_, passes⟩

theorem read_of_perform {operation : Operation} {lexer : Lexer} {item : Item}
    (yielded : (operation.perform lexer).1 = some item) :
    item = lexer.read.1 ∧ (operation.perform lexer).2.cursor = lexer.read.2.cursor := by
  cases operation with
  | advance | skipBlanks => simp [Operation.perform] at yielded
  | read => exact ⟨(Option.some.inj yielded).symm, rfl⟩
  | next =>
    simp only [Operation.perform, next?] at yielded ⊢
    split at yielded
    · simp at yielded
    · next unfinished =>
      rw [if_neg unfinished]
      exact ⟨(Option.some.inj yielded).symm, rfl⟩

/-- What is yielded stands in the source where it says, and the cursor has moved behind it. -/
structure Shows (source : String) (item : Item) (next : Cursor) : Prop where
  occurs : ∃ before rest, source = before ++ item.text ++ rest ∧ item.position = .behind before ∧
    next = ⟨.behind (before ++ item.text), rest.toList⟩
  bytes : source.toByteArray.extract item.position.offset
    (item.position.offset + item.text.utf8ByteSize) = item.text.toByteArray
  ended : ∀ lexeme, item = .ok lexeme → lexeme.token = .endOfInput →
    lexeme.text = "" ∧ lexeme.position.offset = source.utf8ByteSize

theorem extract_bytes (before text rest : String) :
    (before ++ text ++ rest).toByteArray.extract before.utf8ByteSize
      (before.utf8ByteSize + text.utf8ByteSize) = text.toByteArray := by
  rw [String.append_assoc, String.toByteArray_append, String.toByteArray_append,
    ByteArray.extract_append]
  simp only [String.size_toByteArray, Nat.sub_self, Nat.add_sub_cancel_left]
  rw [ByteArray.extract_append_eq_left String.size_toByteArray.symm,
    ByteArray.extract_eq_empty_iff.mpr (by simp), ByteArray.empty_append]

theorem read_shows {source before rest : String} {lexer : Lexer}
    (parts : lexer.cursor.Parts source before rest) :
    Shows source lexer.read.1 lexer.read.2.cursor := by
  obtain ⟨gap, passes, place, ended⟩ := lexer.read_passes
  obtain ⟨whole, stands⟩ := passes.parts parts
  rw [parts.stands, ← Position.behind_append] at place
  rw [String.ofList_append, String.ofList_toList, ← String.append_assoc] at whole stands
  rw [String.toList_ofList] at stands
  refine ⟨⟨_, _, whole, place, by simpa using stands⟩, ?_, ?_⟩
  · rw [place, whole]
    exact extract_bytes ..
  · intro lexeme yielded last
    obtain ⟨empty, nothing⟩ := ended lexeme yielded last
    refine ⟨empty, ?_⟩
    rw [yielded, nothing] at whole
    rw [yielded] at place
    have position : lexeme.position = _ := place
    rw [position, whole]
    simp [Item.text, empty, Position.behind]

/-- An operation moves one lexer; a copy goes on by itself from where it has been taken. -/
inductive Step where
  | perform (index : Nat) (operation : Operation)
  | copy (index : Nat)
  deriving DecidableEq, Repr

def Step.take (lexers : List Lexer) : Step → List Lexer
  | .perform index operation => lexers.modify index fun lexer => (operation.perform lexer).2
  | .copy index => lexers ++ lexers[index]?.toList

def run (lexers : List Lexer) (steps : List Step) : List Lexer :=
  steps.foldl Step.take lexers

theorem run_append (lexers : List Lexer) (first second : List Step) :
    run lexers (first ++ second) = run (run lexers first) second :=
  List.foldl_append

/-- What no step changes: the source, and that the cursor stands in it. -/
def Within (source : String) (lexer : Lexer) : Prop :=
  lexer.source = source ∧ ∃ before rest, lexer.cursor.Parts source before rest

theorem Within.perform {source : String} {lexer : Lexer} (within : lexer.Within source)
    (operation : Operation) : (operation.perform lexer).2.Within source := by
  obtain ⟨same, before, rest, parts⟩ := within
  obtain ⟨passed, passes⟩ := perform_passes operation lexer
  exact ⟨(perform_source operation lexer).trans same, _, _, passes.parts parts⟩

theorem Step.within {source : String} {lexers : List Lexer}
    (within : ∀ lexer ∈ lexers, lexer.Within source) (step : Step) :
    ∀ lexer ∈ step.take lexers, lexer.Within source := by
  intro lexer member
  cases step with
  | perform index operation =>
    obtain ⟨other, found⟩ := List.mem_iff_getElem?.mp member
    rw [Step.take, List.getElem?_modify] at found
    obtain ⟨before, present, rfl⟩ := Option.map_eq_some_iff.mp found
    have kept := within before (List.mem_of_getElem? present)
    split
    · exact kept.perform operation
    · exact kept
  | copy index =>
    rcases List.mem_append.mp member with member | member
    · exact within lexer member
    · exact within lexer (List.mem_of_getElem? (by simpa using member))

theorem run_within {source : String} {lexers : List Lexer}
    (within : ∀ lexer ∈ lexers, lexer.Within source) (steps : List Step) :
    ∀ lexer ∈ run lexers steps, lexer.Within source := by
  induction steps generalizing lexers with
  | nil => exact within
  | cons step steps ih => exact ih (step.within within)

theorem run_start_within (policy : Policy) (source : String) (steps : List Step) :
    ∀ lexer ∈ run [start policy source] steps, lexer.Within source := by
  refine run_within (List.forall_mem_singleton.mpr ?_) steps
  exact ⟨rfl, "", source, Cursor.start_parts source⟩

theorem Step.forward {lexers : List Lexer} {index : Nat} {lexer : Lexer}
    (found : lexers[index]? = some lexer) (step : Step) :
    ∃ later passed, (step.take lexers)[index]? = some later ∧
      lexer.cursor.Passes passed later.cursor := by
  cases step with
  | perform other operation =>
    rw [Step.take, List.getElem?_modify, found]
    by_cases same : other = index
    · obtain ⟨passed, passes⟩ := perform_passes operation lexer
      exact ⟨_, passed, rfl, by simpa [same] using passes⟩
    · exact ⟨lexer, [], by simp [same], .refl _⟩
  | copy other =>
    have inside := (List.getElem?_eq_some_iff.mp found).1
    exact ⟨lexer, [], by rw [Step.take, List.getElem?_append_left inside, found], .refl _⟩

theorem run_forward {lexers : List Lexer} {index : Nat} {lexer : Lexer}
    (found : lexers[index]? = some lexer) (steps : List Step) :
    ∃ later passed, (run lexers steps)[index]? = some later ∧
      lexer.cursor.Passes passed later.cursor := by
  induction steps generalizing lexers lexer with
  | nil => exact ⟨lexer, [], found, .refl _⟩
  | cons step steps ih =>
    obtain ⟨middle, passed, present, passes⟩ := Step.forward found step
    obtain ⟨later, further, behind, moves⟩ := ih present
    exact ⟨later, passed ++ further, behind, passes.trans moves⟩

/-- An operation moves forward by single characters, each from one boundary to the next. -/
structure Moves (source : String) (lexer : Lexer) (operation : Operation) : Prop where
  advances : ∃ count, (operation.perform lexer).2.cursor = Cursor.advance^[count] lexer.cursor ∧
    ∀ passed ≤ count, (Cursor.advance^[passed] lexer.cursor).Placed source
  yields : ∀ item, (operation.perform lexer).1 = some item →
    Shows source item (operation.perform lexer).2.cursor

theorem Within.moves {source : String} {lexer : Lexer} (within : lexer.Within source)
    (operation : Operation) : Moves source lexer operation where
  advances := by
    obtain ⟨-, before, rest, parts⟩ := within
    obtain ⟨passed, passes⟩ := perform_passes operation lexer
    refine ⟨passed.length, passes.iterate_advance.symm, fun count _ => ?_⟩
    obtain ⟨before, rest, parts⟩ := parts.iterate_advance count
    exact parts.placed
  yields item yielded := by
    obtain ⟨-, before, rest, parts⟩ := within
    obtain ⟨rfl, same⟩ := read_of_perform yielded
    rw [same]
    exact read_shows parts

theorem run_placed (policy : Policy) (source : String) (steps : List Step) :
    (∀ lexer ∈ run [start policy source] steps, lexer.source = source ∧
      lexer.cursor.Placed source ∧ ∀ operation, Moves source lexer operation) ∧
    ∀ (further : List Step) (index : Nat) (lexer later : Lexer),
      (run [start policy source] steps)[index]? = some lexer →
      (run [start policy source] (steps ++ further))[index]? = some later →
      lexer.cursor.position.offset ≤ later.cursor.position.offset := by
  constructor
  · intro lexer member
    have within := run_start_within policy source steps lexer member
    have moves := within.moves
    obtain ⟨same, before, rest, parts⟩ := within
    exact ⟨same, parts.placed, moves⟩
  · intro further index lexer later found behind
    obtain ⟨other, passed, present, passes⟩ := run_forward found further
    rw [run_append, present] at behind
    obtain rfl := Option.some.inj behind
    rw [passes.position]
    exact Position.offset_le_after ..

end Lexer

end Kaleidoscope
