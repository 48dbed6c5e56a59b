import Kaleidoscope.Proofs.Lexeme.Spaced

/-! Scanning with blanks at the end of a text.

A blank goes on with a gap, be it outside of a comment or inside, and with nothing else.

Main statement: with blanks behind it a text has the same items, and only its end is moved.
-/

set_option autoImplicit false

namespace Kaleidoscope

theorem Lexeme.exists_gapStep (policy : Policy) (comment : Bool) {char : Char}
    (white : Unicode.isWhiteSpace char = true) : ∃ inside, gapStep policy comment char = some inside := by
  cases comment with
  | false => exact ⟨false, by simp [gapStep, white]⟩
  | true => exact ⟨char != '\n', rfl⟩

namespace Cursor

/-- The cursor in the text with more characters at its end. -/
def extend (more : List Char) (cursor : Cursor) : Cursor := ⟨cursor.position, cursor.rest ++ more⟩

variable {blanks : List Char}

theorem skipGapFrom_blanks (white : ∀ char ∈ blanks, Unicode.isWhiteSpace char = true)
    (policy : Policy) (comment : Bool) (position : Position) :
    (skipGapFrom policy comment position blanks).rest = [] := by
  induction blanks generalizing comment position with
  | nil => rfl
  | cons char blanks ih =>
    obtain ⟨first, others⟩ := List.forall_mem_cons.mp white
    obtain ⟨inside, step⟩ := Lexeme.exists_gapStep policy comment first
    simp only [skipGapFrom, step]
    exact ih others inside _

theorem skipGapFrom_append_blanks (white : ∀ char ∈ blanks, Unicode.isWhiteSpace char = true)
    (policy : Policy) (comment : Bool) (position : Position) (text : List Char) :
    ((skipGapFrom policy comment position text).rest = [] →
      (skipGapFrom policy comment position (text ++ blanks)).rest = []) ∧
    ((skipGapFrom policy comment position text).rest ≠ [] →
      skipGapFrom policy comment position (text ++ blanks) =
        (skipGapFrom policy comment position text).extend blanks) := by
  -- A gap at the end of the text takes in the blanks; in front of anything else they are not
  -- reached.
  induction text generalizing comment position with
  | nil => exact ⟨fun _ => skipGapFrom_blanks white policy comment position, absurd rfl⟩
  | cons char rest ih =>
    rw [List.cons_append]
    unfold skipGapFrom
    cases Lexeme.gapStep policy comment char with
    | some inside => exact ih inside _
    | none => exact ⟨fun ended => absurd ended (List.cons_ne_nil char rest), fun _ => rfl⟩

theorem extend_skipWhile {keep : Char → Bool}
    (stops : ∀ char, Unicode.isWhiteSpace char = true → keep char = false)
    (white : ∀ char ∈ blanks, Unicode.isWhiteSpace char = true) (cursor : Cursor) :
    (cursor.extend blanks).rest.takeWhile keep = cursor.rest.takeWhile keep ∧
      (cursor.extend blanks).skipWhile keep = (cursor.skipWhile keep).extend blanks := by
  have longest := (LongestRun.of_text keep cursor.rest).append fun char first =>
    stops char (white char (List.mem_of_mem_head? first))
  have parted : (cursor.extend blanks).rest =
      cursor.rest.takeWhile keep ++ (cursor.rest.dropWhile keep ++ blanks) := by
    rw [← List.append_assoc, List.takeWhile_append_dropWhile]
    rfl
  have taken := longest.takeWhile_eq
  have left := longest.dropWhile_eq
  rw [← parted] at taken left
  refine ⟨taken, ?_⟩
  simp only [skipWhile, taken, left]
  rfl

theorem extend_read? (white : ∀ char ∈ blanks, Unicode.isWhiteSpace char = true) {cursor next : Cursor}
    {item : Item} (found : cursor.read? = some (item, next)) :
    (cursor.extend blanks).read? = some (item, next.extend blanks) := by
  -- Neither a run of word parts nor one of number parts goes on with a blank.
  obtain ⟨taken, left⟩ := extend_skipWhile Lexeme.isWordPart_of_isWhiteSpace white cursor
  obtain ⟨taken', left'⟩ := extend_skipWhile Lexeme.isNumberPart_of_isWhiteSpace white cursor
  obtain ⟨char, behind, rest, reads⟩ := read?_eq_some_iff.mp found
  have begun : (cursor.extend blanks).rest = char :: (behind ++ blanks) := by simp [extend, rest]
  refine read?_eq_some_iff.mpr ⟨char, behind ++ blanks, begun, ?_⟩
  cases reads with
  | word first =>
    have same : (cursor.extend blanks).word = cursor.word := by
      simp only [word, taken]
      rfl
    rw [← same, ← left]
    exact .word first
  | number noWord part =>
    have same : (cursor.extend blanks).number = cursor.number := by
      simp only [number, taken']
      rfl
    rw [← same, ← left']
    exact .number noWord part
  | mark noWord noNumber =>
    have moved : (cursor.extend blanks).advance = cursor.advance.extend blanks := by
      simp only [advance, rest, begun]
      rfl
    rw [← moved]
    exact .mark noWord noNumber

theorem items_extend (white : ∀ char ∈ blanks, Unicode.isWhiteSpace char = true) (policy : Policy)
    (cursor : Cursor) : ((cursor.extend blanks).scan policy).items = (cursor.scan policy).items := by
  -- The induction is on the items that are read without the blanks.
  induction cursor using Cursor.scan.induct policy with
  | case1 cursor missing =>
    obtain ⟨ended, -⟩ := skipGapFrom_append_blanks white policy false cursor.position cursor.rest
    have missing' : ((cursor.extend blanks).skipGap policy).read? = none := by
      rw [read?_eq_none_iff] at missing ⊢
      exact ended missing
    rw [scan_of_read?_none missing, scan_of_read?_none missing']
  | case2 cursor item next found ih =>
    obtain ⟨-, inner⟩ := skipGapFrom_append_blanks white policy false cursor.position cursor.rest
    have present : (cursor.skipGap policy).rest ≠ [] := by
      intro empty
      simp [read?_eq_none_iff.mpr empty] at found
    have further : ((cursor.extend blanks).skipGap policy).read? = some (item, next.extend blanks) := by
      rw [show (cursor.extend blanks).skipGap policy = _ from inner present]
      exact extend_read? white found
    rw [scan_of_read? found, scan_of_read? further, ih]

end Cursor

namespace Source

theorem scan_append_blanks {blanks : List Char}
    (white : ∀ char ∈ blanks, Unicode.isWhiteSpace char = true) (policy : Policy) (source : String) :
    ∃ items, scan policy source = ⟨items, .behind source⟩ ∧
      scan policy (source ++ String.ofList blanks) =
        ⟨items, .behind (source ++ String.ofList blanks)⟩ := by
  have ending (text : String) : (scan policy text).ending = .behind text :=
    ((Cursor.start text).scan_ending policy).trans (Position.after_start text)
  have extended : (Cursor.start source).extend blanks =
      Cursor.start (source ++ String.ofList blanks) := by
    simp [Cursor.start, Cursor.extend]
  have items := Cursor.items_extend white policy (Cursor.start source)
  rw [extended] at items
  refine ⟨(scan policy source).items, ?_, ?_⟩
  · rw [← ending]
  · rw [← ending]
    exact congrArg (Scan.mk · _) items

end Source

end Kaleidoscope
