import Kaleidoscope.Proofs.Lexeme.Classes

/-! Cutting a text into segments.

A segment is a piece of a gap, a lexeme, or what makes a scan fail. Runs are always the longest ones.

Main statement: every text is cut into segments in exactly one way.
-/

set_option autoImplicit false

namespace Kaleidoscope

open Lexeme (isWordStart isWordPart isNumberPart marks reserved WellFormed Unknown)

/-- A run that ends where the text ends, or in front of a character that does not belong to it. -/
structure LongestRun (keep : Char → Bool) (run rest : List Char) : Prop where
  kept : ∀ char ∈ run, keep char = true
  stopped : ∀ char ∈ rest.head?, keep char = false

namespace LongestRun

variable {keep : Char → Bool} {run rest : List Char}

theorem takeWhile_eq (longest : LongestRun keep run rest) : (run ++ rest).takeWhile keep = run := by
  rw [List.takeWhile_append_of_pos longest.kept]
  cases rest with
  | nil => simp
  | cons char rest => simp [longest.stopped char rfl]

theorem dropWhile_eq (longest : LongestRun keep run rest) : (run ++ rest).dropWhile keep = rest := by
  rw [List.dropWhile_append_of_pos longest.kept]
  cases rest with
  | nil => rfl
  | cons char rest => simp [longest.stopped char rfl]

theorem tail {char : Char} (longest : LongestRun keep (char :: run) rest) :
    LongestRun keep run rest :=
  ⟨(List.forall_mem_cons.mp longest.kept).2, longest.stopped⟩

theorem unique {other behind : List Char} (left : LongestRun keep run rest)
    (right : LongestRun keep other behind) (same : run ++ rest = other ++ behind) :
    run = other ∧ rest = behind := by
  constructor
  · rw [← left.takeWhile_eq, same, right.takeWhile_eq]
  · rw [← left.dropWhile_eq, same, right.dropWhile_eq]

theorem of_text (keep : Char → Bool) (text : List Char) :
    LongestRun keep (text.takeWhile keep) (text.dropWhile keep) where
  kept _ := List.mem_takeWhile_imp
  stopped char first := by
    have stopped := List.head?_dropWhile_not keep text
    rw [Option.mem_def.mp first] at stopped
    exact stopped

theorem before {other : List Char} (longest : LongestRun keep run rest)
    (heads : ∀ char ∈ other.head?, rest.head? = some char ∨ keep char = false) :
    LongestRun keep run other where
  kept := longest.kept
  stopped char first := (heads char first).elim (longest.stopped char) id

theorem append {more : List Char} (longest : LongestRun keep run rest)
    (stops : ∀ char ∈ more.head?, keep char = false) : LongestRun keep run (rest ++ more) := by
  refine longest.before fun char first => ?_
  cases rest with
  | nil => exact .inr (stops char first)
  | cons => exact .inl first

end LongestRun

/-- Blanks, comments and skipped characters make up the gaps; the last two are errors. -/
inductive Segment where
  | blank (char : Char)
  | comment (run : List Char)
  | skipped (char : Char)
  | word (run : List Char)
  | number (run : List Char) (value : Binary64)
  | mark (char : Char) (token : Token)
  | malformed (run : List Char)
  | stray (char : Char)

namespace Segment

def text : Segment → List Char
  | .blank char | .skipped char | .mark char _ | .stray char => [char]
  | .comment run => '#' :: run
  | .word run | .number run _ | .malformed run => run

def isError : Segment → Bool
  | .malformed _ | .stray _ => true
  | _ => false

/-- Whether a segment may stand in front of the rest of a text. -/
def Lawful (policy : Policy) : Segment → List Char → Prop
  | .blank char, _ => Unicode.isWhiteSpace char = true
  | .comment run, rest => LongestRun (· != '\n') run rest
  | .skipped char, _ => policy = .skip ∧ Unknown char
  | .word run, rest => run.head?.any isWordStart = true ∧ LongestRun isWordPart run rest
  | .number run value, rest => run ≠ [] ∧ LongestRun isNumberPart run rest ∧ WellFormed run ∧
      Binary64.ofLiteral? run = some value
  | .mark char token, _ => (char, token) ∈ marks
  | .malformed run, rest => run ≠ [] ∧ LongestRun isNumberPart run rest ∧ ¬WellFormed run
  | .stray char, _ => policy = .reject ∧ Unknown char

/-- What is yielded for a segment at a place, if anything is. -/
def item? (position : Position) : Segment → Option Item
  | .blank _ | .comment _ | .skipped _ => none
  | .word run =>
      let word := String.ofList run
      some (.ok ⟨(reserved.lookup word).getD (.identifier word), word, position⟩)
  | .number run value => some (.ok ⟨.number value, String.ofList run, position⟩)
  | .mark char token => some (.ok ⟨token, String.singleton char, position⟩)
  | .malformed run => some (.error (.malformedNumber (String.ofList run) position))
  | .stray char => some (.error (.unknownCharacter char position))

/-- What the first character of a segment tells about it. -/
inductive Role where
  | blank
  | comment
  | word
  | number
  | mark
  | unknown
  deriving DecidableEq, Repr

def roleOf (char : Char) : Role :=
  if Unicode.isWhiteSpace char then .blank
  else if char = '#' then .comment
  else if isWordStart char then .word
  else if isNumberPart char then .number
  else if (Token.ofMark? char).isSome then .mark
  else .unknown

def role : Segment → Role
  | .blank _ => .blank
  | .comment _ => .comment
  | .word _ => .word
  | .number .. | .malformed _ => .number
  | .mark .. => .mark
  | .skipped _ | .stray _ => .unknown

theorem roleOf_hash : roleOf '#' = .comment := by decide +kernel

theorem roleOf_wordStart {char : Char} (first : isWordStart char = true) : roleOf char = .word := by
  have noComment : char ≠ '#' := by
    rintro rfl
    revert first
    decide +kernel
  simp [roleOf, Lexeme.isWhiteSpace_of_isWordStart first, noComment, first]

theorem roleOf_numberPart {char : Char} (part : isNumberPart char = true) :
    roleOf char = .number := by
  have noComment : char ≠ '#' := by
    rintro rfl
    exact absurd part (by decide)
  simp [roleOf, Lexeme.isWhiteSpace_of_isNumberPart part, noComment,
    Lexeme.isWordStart_of_isNumberPart part, part]

theorem roleOf_mark {char : Char} {token : Token} (member : (char, token) ∈ marks) :
    roleOf char = .mark := by
  obtain ⟨noBlank, noComment, noWord, noNumber⟩ := Lexeme.mark_classes _ member
  simp_all [roleOf, Lexeme.mem_marks_iff]

theorem roleOf_unknown {char : Char} (unknown : Unknown char) : roleOf char = .unknown := by
  simp [roleOf, unknown.noBlank, unknown.noComment, unknown.noWord, unknown.noNumber,
    unknown.ofMark?_eq]

theorem Lawful.exists_head {policy : Policy} {segment : Segment} {rest : List Char}
    (lawful : segment.Lawful policy rest) :
    ∃ char others, segment.text = char :: others ∧ roleOf char = segment.role := by
  cases segment with
  | blank char => exact ⟨char, [], rfl, if_pos lawful⟩
  | comment run => exact ⟨'#', run, rfl, roleOf_hash⟩
  | skipped char | stray char => exact ⟨char, [], rfl, roleOf_unknown lawful.2⟩
  | mark char token => exact ⟨char, [], rfl, roleOf_mark lawful⟩
  | word run =>
    cases run with
    | nil => simp [Lawful] at lawful
    | cons char run => exact ⟨char, run, rfl, roleOf_wordStart (by simpa using lawful.1)⟩
  | number run | malformed run =>
    obtain ⟨char, others, rfl⟩ := List.exists_cons_of_ne_nil lawful.1
    exact ⟨char, others, rfl, roleOf_numberPart (lawful.2.1.kept char (by simp))⟩

theorem Lawful.text_ne_nil {policy : Policy} {segment : Segment} {rest : List Char}
    (lawful : segment.Lawful policy rest) : segment.text ≠ [] := by
  obtain ⟨char, others, text, -⟩ := lawful.exists_head
  simp [text]

theorem Lawful.unique {policy : Policy} {first second : Segment} {rest other : List Char}
    (left : first.Lawful policy rest) (right : second.Lawful policy other)
    (same : first.text ++ rest = second.text ++ other) : first = second ∧ rest = other := by
  -- The first character tells the role, and the role tells how far the segment goes.
  have roles : first.role = second.role := by
    obtain ⟨char, run, text, role⟩ := left.exists_head
    obtain ⟨char', run', text', role'⟩ := right.exists_head
    rw [text, text', List.cons_append, List.cons_append, List.cons.injEq] at same
    rw [← role, ← role', same.1]
  cases first with
  | blank char =>
    cases second with
    | blank => simpa [text] using same
    | _ => simp [role] at roles
  | comment run =>
    cases second with
    | comment run' => simpa using LongestRun.unique left right (List.cons.inj same).2
    | _ => simp [role] at roles
  | skipped char =>
    cases second with
    | skipped => simpa [text] using same
    | stray => exact absurd (left.1.symm.trans right.1) (by decide)
    | _ => simp [role] at roles
  | word run =>
    cases second with
    | word run' => simpa using left.2.unique right.2 same
    | _ => simp [role] at roles
  | number run value =>
    cases second with
    | number run' value' =>
      obtain ⟨rfl, rfl⟩ := left.2.1.unique right.2.1 same
      simpa using Option.some.inj (left.2.2.2.symm.trans right.2.2.2)
    | malformed run' =>
      -- Both begin alike and are equally long, but only one of them is well formed.
      obtain ⟨rfl, rfl⟩ := left.2.1.unique right.2.1 same
      exact absurd left.2.2.1 right.2.2
    | _ => simp [role] at roles
  | mark char token =>
    cases second with
    | mark char' token' =>
      obtain ⟨rfl, rfl⟩ := List.cons.inj same
      have spelled := (Lexeme.mem_marks_iff.mp left).symm.trans (Lexeme.mem_marks_iff.mp right)
      simpa using spelled
    | _ => simp [role] at roles
  | malformed run =>
    cases second with
    | number run' value' =>
      obtain ⟨rfl, rfl⟩ := left.2.1.unique right.2.1 same
      exact absurd right.2.2.1 left.2.2
    | malformed run' => simpa using left.2.1.unique right.2.1 same
    | _ => simp [role] at roles
  | stray char =>
    cases second with
    | skipped => exact absurd (left.1.symm.trans right.1) (by decide)
    | stray => simpa [text] using same
    | _ => simp [role] at roles

theorem exists_numberSegment (policy : Policy) {char : Char} {rest : List Char}
    (part : isNumberPart char = true) :
    ∃ (segment : Segment) (following : List Char), segment.text ++ following = char :: rest ∧
      segment.Lawful policy following := by
  have longest := LongestRun.of_text isNumberPart (char :: rest)
  have parted := List.takeWhile_append_dropWhile (p := isNumberPart) (l := char :: rest)
  have nonempty : (char :: rest).takeWhile isNumberPart ≠ [] := by simp [part]
  have spells := Lexeme.isSome_ofLiteral?_iff longest.kept
  cases spelled : Binary64.ofLiteral? ((char :: rest).takeWhile isNumberPart) with
  | some value =>
    rw [spelled] at spells
    exact ⟨.number _ value, _, parted, nonempty, longest, spells.mp rfl, spelled⟩
  | none =>
    rw [spelled] at spells
    have illFormed : ¬WellFormed _ := fun wellFormed => nomatch spells.mpr wellFormed
    exact ⟨.malformed _, _, parted, nonempty, longest, illFormed⟩

theorem exists_lawful (policy : Policy) (char : Char) (rest : List Char) :
    ∃ (segment : Segment) (following : List Char), segment.text ++ following = char :: rest ∧
      segment.Lawful policy following := by
  -- The cases come in the order in which a lexer distinguishes them.
  by_cases white : Unicode.isWhiteSpace char = true
  · exact ⟨.blank char, rest, rfl, white⟩
  by_cases hash : char = '#'
  · subst hash
    have parted := List.takeWhile_append_dropWhile (p := (· != '\n')) (l := rest)
    exact ⟨.comment _, _, congrArg ('#' :: ·) parted, .of_text _ rest⟩
  by_cases first : isWordStart char = true
  · have parted := List.takeWhile_append_dropWhile (p := isWordPart) (l := char :: rest)
    refine ⟨.word _, _, parted, ?_, .of_text isWordPart (char :: rest)⟩
    simp [Lexeme.isWordPart_of_isWordStart first, first]
  by_cases part : isNumberPart char = true
  · exact exists_numberSegment policy part
  by_cases spelled : ∃ token, (char, token) ∈ marks
  · obtain ⟨token, member⟩ := spelled
    exact ⟨.mark char token, rest, rfl, member⟩
  have unknown : Unknown char := by
    constructor <;> simp_all
  cases policy with
  | skip => exact ⟨.skipped char, rest, rfl, rfl, unknown⟩
  | reject => exact ⟨.stray char, rest, rfl, rfl, unknown⟩

@[elab_as_elim]
theorem induction_segments (policy : Policy) {motive : List Char → Prop} (nil : motive [])
    (segment : ∀ (segment : Segment) (following : List Char), segment.Lawful policy following →
      motive following → motive (segment.text ++ following))
    (text : List Char) : motive text := by
  -- The induction is on what is left of the text: no segment is empty.
  induction counted : text.length using Nat.strong_induction_on generalizing text with
  | _ size ih =>
    cases text with
    | nil => exact nil
    | cons char rest =>
      obtain ⟨first, following, parted, lawful⟩ := exists_lawful policy char rest
      rw [← parted] at counted ⊢
      have nonempty := List.length_pos_iff.mpr lawful.text_ne_nil
      rw [List.length_append] at counted
      exact segment first following lawful (ih _ (by omega) following rfl)

end Segment

/-- The segments of a text, and what stands unread behind an error. -/
structure Cut where
  segments : List Segment
  rest : List Char

namespace Cut

def textOf (segments : List Segment) : List Char := segments.flatMap Segment.text

theorem textOf_cons_append (segment : Segment) (others : List Segment) (rest : List Char) :
    textOf (segment :: others) ++ rest = segment.text ++ (textOf others ++ rest) := by
  rw [textOf, List.flatMap_cons, List.append_assoc, textOf]

def text (cut : Cut) : List Char := textOf cut.segments ++ cut.rest

/-- Every segment fits what stands behind it, and the first error is the last segment. -/
def Fits (policy : Policy) (rest : List Char) : List Segment → Prop
  | [] => rest = []
  | segment :: others =>
      segment.Lawful policy (textOf others ++ rest) ∧
        if segment.isError then others = [] else Fits policy rest others

def Lawful (policy : Policy) (cut : Cut) : Prop := Fits policy cut.rest cut.segments

/-- What is yielded for the segments from a place on: an item for each lexeme, and at the end either the
error or the end of the text. -/
def itemsFrom (position : Position) : List Segment → List Item
  | [] => [.ok (.ending position)]
  | segment :: others =>
      match segment.item? position with
      | none => itemsFrom (position.after segment.text) others
      | some (.ok lexeme) => .ok lexeme :: itemsFrom (position.after segment.text) others
      | some (.error error) => [.error error]

def items (cut : Cut) : List Item := itemsFrom .start cut.segments

theorem fits_unique {policy : Policy} {first second : List Segment} {rest other : List Char}
    (left : Fits policy rest first) (right : Fits policy other second)
    (same : textOf first ++ rest = textOf second ++ other) : first = second ∧ rest = other := by
  induction first generalizing second with
  | nil =>
    obtain rfl : rest = [] := left
    cases second with
    | nil => exact ⟨rfl, same⟩
    | cons segment others =>
      have nonempty := right.1.text_ne_nil
      simp [textOf, nonempty] at same
  | cons segment others ih =>
    cases second with
    | nil =>
      obtain rfl : other = [] := right
      have nonempty := left.1.text_ne_nil
      simp [textOf, nonempty] at same
    | cons segment' others' =>
      simp only [textOf, List.flatMap_cons, List.append_assoc] at same
      obtain ⟨rfl, following⟩ := left.1.unique right.1 same
      obtain ⟨-, left⟩ := left
      obtain ⟨-, right⟩ := right
      split at left
      · next failed =>
        rw [if_pos failed] at right
        subst left right
        exact ⟨rfl, following⟩
      · next fine =>
        rw [if_neg fine] at right
        obtain ⟨rfl, rfl⟩ := ih left right following
        exact ⟨rfl, rfl⟩

theorem exists_lawful (policy : Policy) (text : List Char) :
    ∃ cut : Cut, cut.text = text ∧ cut.Lawful policy := by
  induction text using Segment.induction_segments policy with
  | nil => exact ⟨⟨[], []⟩, rfl, rfl⟩
  | segment segment following lawful ih =>
    -- The first error ends the cut, whatever stands behind it.
    by_cases failed : segment.isError = true
    · refine ⟨⟨[segment], following⟩, ?_, ?_, ?_⟩
      · simp [text, textOf]
      · exact lawful
      · rw [if_pos failed]
    · obtain ⟨cut, rfl, fits⟩ := ih
      refine ⟨⟨segment :: cut.segments, cut.rest⟩, ?_, ?_, ?_⟩
      · simp [text, textOf]
      · exact lawful
      · rw [if_neg failed]
        exact fits

theorem existsUnique (policy : Policy) (text : List Char) :
    ∃! cut : Cut, cut.text = text ∧ cut.Lawful policy := by
  obtain ⟨cut, same, lawful⟩ := exists_lawful policy text
  refine ⟨cut, ⟨same, lawful⟩, ?_⟩
  rintro other ⟨same', lawful'⟩
  obtain ⟨segments, rest⟩ := fits_unique lawful' lawful (same'.trans same.symm)
  cases cut
  cases other
  simp_all

end Cut

end Kaleidoscope
