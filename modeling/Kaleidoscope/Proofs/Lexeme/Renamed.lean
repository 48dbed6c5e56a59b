import Kaleidoscope.Proofs.Lexeme.Blanked
import Kaleidoscope.Proofs.Machine.Renaming
import Kaleidoscope.Proofs.Source.Contents
import Kaleidoscope.Proofs.Source.Written

/-! Names replaced in a text.

Only the lexemes that are names change. A name begins as its image does and no lexeme in front of it goes
on with either, so a renamed text falls into the same segments.

Main statement: the renamed text is cut into the renamed segments.
-/

set_option autoImplicit false

namespace Kaleidoscope

open Lexeme (isWordStart isWordPart isNumberPart)

variable (image : String → String)

namespace Cursor

/-- The text at the cursor with the image of each name in its place. What stands behind the first error is
left as it is. -/
def renamed (policy : Policy) (cursor : Cursor) : List Char :=
  cursor.rest.take (cursor.rest.length - (cursor.skipGap policy).rest.length) ++
    match _found : (cursor.skipGap policy).read? with
    | none => []
    | some (item, next) =>
        (item.rename image).text.toList ++ if item.isOk then next.renamed policy else next.rest
termination_by cursor.rest.length
decreasing_by
  exact Nat.lt_of_lt_of_le (Cursor.read?_length_lt _found) (Cursor.skipGap_length_le policy cursor)

variable {image} {policy : Policy} {cursor next : Cursor} {item : Item}

theorem renamed_of_read? (found : (cursor.skipGap policy).read? = some (item, next)) :
    cursor.renamed image policy =
      cursor.rest.take (cursor.rest.length - (cursor.skipGap policy).rest.length) ++
        ((item.rename image).text.toList ++
          if item.isOk then next.renamed image policy else next.rest) := by
  rw [renamed]
  split
  · next missing => simp [missing] at found
  · next other rest present =>
    obtain ⟨rfl, rfl⟩ : other = item ∧ rest = next := by simpa [found, eq_comm] using present
    rfl

theorem renamed_of_read?_none (missing : (cursor.skipGap policy).read? = none) :
    cursor.renamed image policy =
      cursor.rest.take (cursor.rest.length - (cursor.skipGap policy).rest.length) := by
  rw [renamed]
  split
  · rw [List.append_nil]
  · next present => simp [missing] at present

end Cursor

theorem IsName.ofWord_eq {name : String} (isName : IsName name) :
    Token.ofWord name = .identifier name := by
  have free := isName.free
  simp only [Lexeme.reserved, List.map_cons, List.map_nil, List.mem_cons, List.not_mem_nil,
    or_false, not_or] at free
  simp [Token.ofWord, free]

namespace Segment

def rename : Segment → Segment
  | .word run =>
      match Token.ofWord (String.ofList run) with
      | .identifier name => .word (image name).toList
      | _ => .word run
  | segment => segment

theorem isError_rename (segment : Segment) : (segment.rename image).isError = segment.isError := by
  cases segment with
  | word run =>
    unfold rename
    dsimp only
    split <;> rfl
  | _ => rfl

variable {image} {policy : Policy} {segment : Segment} {rest : List Char}

theorem Lawful.rename_cases (image : String → String) (lawful : segment.Lawful policy rest) :
    (∃ run, segment = .word run ∧ IsName (String.ofList run) ∧
      segment.rename image = .word (image (String.ofList run)).toList) ∨
    segment.rename image = segment ∧
      ∀ position item, segment.item? position = some item → item.rename image = item := by
  cases segment with
  | word run =>
    have spells : Spells (String.ofList run) (Token.ofWord (String.ofList run)) :=
      .word (by simpa using lawful.1) (by simpa using lawful.2.kept)
    have yielded (position : Position) : (Segment.word run).item? position =
        some (.ok ⟨Token.ofWord (String.ofList run), String.ofList run, position⟩) := by
      rw [Lexeme.ofWord_eq]
      rfl
    -- A reserved word is no name, so it stays as it is.
    cases named : Token.ofWord (String.ofList run) with
    | identifier name =>
      obtain rfl := Token.eq_of_ofWord named
      exact .inl ⟨run, rfl, spells.isName (named ▸ rfl), by simp [rename, named]⟩
    | _ =>
      refine .inr ⟨by simp [rename, named], fun position item same => ?_⟩
      rw [yielded, named] at same
      obtain rfl := Option.some.inj same
      rfl
  | mark char token =>
    refine .inr ⟨rfl, fun position item same => ?_⟩
    have other : ∀ pair ∈ Lexeme.marks, pair.2.kind ≠ .identifier := by decide
    obtain rfl := Option.some.inj same
    exact congrArg Except.ok (Lexeme.rename_eq_self image (other _ lawful))
  | number run value =>
    refine .inr ⟨rfl, fun position item same => ?_⟩
    obtain rfl := Option.some.inj same
    rfl
  | malformed | stray =>
    refine .inr ⟨rfl, fun position item same => ?_⟩
    obtain rfl := Option.some.inj same
    rfl
  | blank | comment | skipped => exact .inr ⟨rfl, fun _ _ same => by simp [item?] at same⟩

theorem Lawful.rename_of_gap (lawful : segment.Lawful policy rest) {position : Position}
    (gap : segment.item? position = none) : segment.rename image = segment := by
  rcases lawful.rename_cases image with ⟨run, rfl, -⟩ | ⟨same, -⟩
  · simp [item?] at gap
  · exact same

theorem Lawful.item?_rename (images : ∀ name, IsName name → IsName (image name))
    (lawful : segment.Lawful policy rest) (position place : Position) :
    (segment.rename image).item? place =
      (segment.item? position).map fun item => (item.rename image).relocate fun _ => place := by
  have moved (segment : Segment) : segment.item? place =
      (segment.item? position).map (Item.relocate fun _ => place) := by
    cases segment <;> rfl
  rcases lawful.rename_cases image with ⟨run, rfl, isName, renamed⟩ | ⟨renamed, items⟩
  · have named := isName.ofWord_eq
    have named' := (images _ isName).ofWord_eq
    rw [Lexeme.ofWord_eq] at named named'
    simp only [renamed, item?, String.ofList_toList, named, named']
    rfl
  · rw [renamed, moved]
    cases yielded : segment.item? position with
    | none => rfl
    | some item => rw [Option.map_some, Option.map_some, items position item yielded]

end Segment

/-- The rests begin alike, or with words that may be different. -/
def SameHead (rest other : List Char) : Prop :=
  other.head? = rest.head? ∨
    rest.head?.any isWordStart = true ∧ other.head?.any isWordStart = true

-- A run goes on with the beginnings of all words or with none of them.
theorem LongestRun.of_sameHead {keep : Char → Bool} {run rest other : List Char}
    (uniform : ∀ char char', isWordStart char = true → isWordStart char' = true →
      keep char = keep char')
    (longest : LongestRun keep run rest) (heads : SameHead rest other) : LongestRun keep run other := by
  refine ⟨longest.kept, fun char first => ?_⟩
  rcases heads with same | ⟨begun, begun'⟩
  · exact longest.stopped char (same ▸ first)
  · cases rest with
    | nil => simp at begun
    | cons char' rest =>
      rw [Option.mem_def.mp first] at begun'
      rw [uniform char char' begun' begun, longest.stopped char' rfl]

namespace Segment

variable {image} {policy : Policy} {segment : Segment} {rest other : List Char}

theorem Lawful.of_sameHead (lawful : segment.Lawful policy rest) (heads : SameHead rest other) :
    segment.Lawful policy other := by
  -- Words go on with what begins a word, and numbers do not; so it does not matter which word begins.
  have noNumber (char : Char) (first : isWordStart char = true) : isNumberPart char = false := by
    cases part : isNumberPart char with
    | false => rfl
    | true => simp [Lexeme.isWordStart_of_isNumberPart part] at first
  have numbers (char char' : Char) (first : isWordStart char = true)
      (first' : isWordStart char' = true) : isNumberPart char = isNumberPart char' := by
    rw [noNumber char first, noNumber char' first']
  cases segment with
  | blank | skipped | mark | stray => exact lawful
  | comment run =>
    refine LongestRun.of_sameHead (fun char char' first first' => ?_) lawful heads
    have notNewline (char : Char) (first : isWordStart char = true) : (char != '\n') = true := by
      rw [bne_iff_ne]
      rintro rfl
      revert first
      decide +kernel
    rw [notNewline char first, notNewline char' first']
  | word run =>
    refine ⟨lawful.1, lawful.2.of_sameHead (fun char char' first first' => ?_) heads⟩
    rw [Lexeme.isWordPart_of_isWordStart first, Lexeme.isWordPart_of_isWordStart first']
  | number run value =>
    obtain ⟨nonempty, longest, wellFormed, spelled⟩ := lawful
    exact ⟨nonempty, longest.of_sameHead numbers heads, wellFormed, spelled⟩
  | malformed run =>
    obtain ⟨nonempty, longest, illFormed⟩ := lawful
    exact ⟨nonempty, longest.of_sameHead numbers heads, illFormed⟩

theorem Lawful.rename (images : ∀ name, IsName name → IsName (image name))
    (lawful : segment.Lawful policy rest) (heads : SameHead rest other) :
    (segment.rename image).Lawful policy other := by
  rcases lawful.rename_cases image with ⟨run, rfl, isName, renamed⟩ | ⟨renamed, -⟩
  · have isName := images _ isName
    have behind := (lawful.of_sameHead heads).2.stopped
    rw [renamed]
    exact ⟨isName.begins, isName.goesOn, behind⟩
  · rw [renamed]
    exact lawful.of_sameHead heads

theorem Lawful.sameHead_rename (images : ∀ name, IsName name → IsName (image name))
    (lawful : segment.Lawful policy rest) (behind behind' : List Char) :
    SameHead (segment.text ++ behind) ((segment.rename image).text ++ behind') := by
  rcases lawful.rename_cases image with ⟨run, rfl, isName, renamed⟩ | ⟨renamed, -⟩
  · have begins (text behind : List Char) (begun : text.head?.any isWordStart = true) :
        (text ++ behind).head?.any isWordStart = true := by
      cases text with
      | nil => simp at begun
      | cons char text => exact begun
    rw [renamed]
    exact .inr ⟨begins run behind lawful.1, begins _ behind' (images _ isName).begins⟩
  · obtain ⟨char, others, text, -⟩ := lawful.exists_head
    rw [renamed, text]
    exact .inl rfl

end Segment

namespace Cut

variable {image} {policy : Policy} {segments : List Segment} {rest : List Char}

theorem Fits.sameHead_rename (images : ∀ name, IsName name → IsName (image name))
    (fits : Fits policy rest segments) :
    SameHead (textOf segments ++ rest) (textOf (segments.map (Segment.rename image)) ++ rest) := by
  cases segments with
  | nil => exact .inl rfl
  | cons segment others =>
    simp only [textOf, List.map_cons, List.flatMap_cons, List.append_assoc]
    exact fits.1.sameHead_rename images _ _

theorem Fits.rename (images : ∀ name, IsName name → IsName (image name))
    (fits : Fits policy rest segments) : Fits policy rest (segments.map (Segment.rename image)) := by
  induction segments with
  | nil => exact fits
  | cons segment others ih =>
    obtain ⟨lawful, behind⟩ := fits
    simp only [List.map_cons, Fits, Segment.isError_rename]
    split
    · -- What stands behind an error is left as it is.
      next failed =>
      rw [if_pos failed] at behind
      subst behind
      exact ⟨lawful.rename images (.inl rfl), rfl⟩
    · next fine =>
      rw [if_neg fine] at behind
      exact ⟨lawful.rename images (Fits.sameHead_rename images behind), ih behind⟩

end Cut

namespace Segment

variable {image} {policy : Policy} {segment : Segment} {rest : List Char} {position : Position}

theorem Lawful.renamed_of_gap (lawful : segment.Lawful policy rest)
    (gap : segment.item? position = none) :
    (Cursor.mk position (segment.text ++ rest)).renamed image policy =
      segment.text ++ (Cursor.mk (position.after segment.text) rest).renamed image policy := by
  have left := lawful.skipGap_eq gap
  -- The gap goes on behind the segment, so it is longer by the text of the segment.
  have shorter := Cursor.skipGap_length_le policy ⟨position.after segment.text, rest⟩
  have taken (count : Nat) (few : count ≤ rest.length) :
      (segment.text ++ rest).take ((segment.text ++ rest).length - count) =
        segment.text ++ rest.take (rest.length - count) := by
    have front : segment.text.length ≤ (segment.text ++ rest).length - count := by
      rw [List.length_append]
      omega
    have back : (segment.text ++ rest).length - count - segment.text.length = rest.length - count := by
      rw [List.length_append]
      omega
    rw [List.take_append, List.take_of_length_le front, back]
  cases found : ((Cursor.mk (position.after segment.text) rest).skipGap policy).read? with
  | none =>
    rw [Cursor.renamed_of_read?_none found, Cursor.renamed_of_read?_none (left ▸ found), left,
      taken _ shorter]
  | some pair =>
    obtain ⟨item, next⟩ := pair
    rw [Cursor.renamed_of_read? found, Cursor.renamed_of_read? (left ▸ found), left, taken _ shorter,
      List.append_assoc]

theorem Lawful.renamed_of_item (lawful : segment.Lawful policy rest) {item : Item}
    (yielded : segment.item? position = some item) :
    (Cursor.mk position (segment.text ++ rest)).renamed image policy =
      (item.rename image).text.toList ++ if item.isOk then
        (Cursor.mk (position.after segment.text) rest).renamed image policy else rest := by
  have stays := lawful.skipGap_self yielded
  have found := lawful.read?_eq yielded
  rw [← stays] at found
  rw [Cursor.renamed_of_read? found, stays, Nat.sub_self, List.take_zero, List.nil_append]

theorem Lawful.toList_rename (images : ∀ name, IsName name → IsName (image name))
    (lawful : segment.Lawful policy rest) {item : Item}
    (yielded : segment.item? position = some item) :
    (item.rename image).text.toList = (segment.rename image).text := by
  have renamed := lawful.item?_rename images position position
  rw [yielded, Option.map_some] at renamed
  rw [← (item?_stands renamed).2]
  cases item with
  | ok => rfl
  | error error => cases error <;> rfl

end Segment

namespace Cut

variable {image} {policy : Policy} {segments : List Segment} {rest : List Char}

theorem Fits.renamed_eq (images : ∀ name, IsName name → IsName (image name))
    (fits : Fits policy rest segments) (position : Position) :
    (Cursor.mk position (textOf segments ++ rest)).renamed image policy =
      textOf (segments.map (Segment.rename image)) ++ rest := by
  -- The induction is on the segments, and each takes the cursor behind its text.
  induction segments generalizing position with
  | nil =>
    obtain rfl : rest = [] := fits
    exact Cursor.renamed_of_read?_none rfl
  | cons segment others ih =>
    have lawful := fits.1
    rw [List.map_cons, textOf_cons_append, textOf_cons_append]
    rcases fits.cons_cases position with ⟨gap, further⟩ | ⟨lexeme, yielded, further⟩ |
      ⟨error, yielded, rfl⟩
    · rw [lawful.renamed_of_gap gap, lawful.rename_of_gap gap, ih further]
    · rw [lawful.renamed_of_item yielded, lawful.toList_rename images yielded, ih further]
      rfl
    · rw [lawful.renamed_of_item yielded, lawful.toList_rename images yielded]
      rfl

end Cut

end Kaleidoscope
