import Kaleidoscope.Proofs.Lexeme.Joined

/-! Lexemes with blanks between them.

A lexeme is read as what it is wherever nothing but white space stands behind it.

Main statement: a text of spelled tokens with white space between them has exactly these lexemes.
-/

set_option autoImplicit false

namespace Kaleidoscope

open Lexeme (isWordStart isWordPart isNumberPart marks)

/-- Standing alone, the text is one lexeme with the token. -/
inductive Spells : String → Token → Prop where
  | word {text : String} : text.toList.head?.any isWordStart = true →
      (∀ char ∈ text.toList, isWordPart char = true) → Spells text (.ofWord text)
  | number {text : String} {value : Binary64} :
      (∀ char ∈ text.toList, isNumberPart char = true) →
      Binary64.ofLiteral? text.toList = some value → Spells text (.number value)
  | mark {char : Char} {token : Token} : (char, token) ∈ marks →
      Spells (String.singleton char) token

/-- A lexeme without its place. -/
structure Spelling where
  text : String
  token : Token
  spells : Spells text token

theorem LongestRun.before_blank {keep : Char → Bool} {run rest : List Char}
    (kept : ∀ char ∈ run, keep char = true)
    (stops : ∀ char, Unicode.isWhiteSpace char = true → keep char = false)
    (blank : ∀ char ∈ rest.head?, Unicode.isWhiteSpace char = true) : LongestRun keep run rest :=
  ⟨kept, fun char first => stops char (blank char first)⟩

theorem Lexeme.isWordPart_of_isWhiteSpace (char : Char) (white : Unicode.isWhiteSpace char = true) :
    isWordPart char = false := by
  have noLine : char ≠ '_' := by
    rintro rfl
    revert white
    decide +kernel
  simp [isWordPart, Unicode.isAlphanumeric_eq_false_of_isWhiteSpace white, noLine]

theorem Lexeme.isNumberPart_of_isWhiteSpace (char : Char) (white : Unicode.isWhiteSpace char = true) :
    isNumberPart char = false := by
  cases part : isNumberPart char with
  | false => rfl
  | true => exact absurd white (by simp [Lexeme.isWhiteSpace_of_isNumberPart part])

theorem Spells.exists_segment {text : String} {token : Token} (spells : Spells text token) :
    ∃ segment : Segment, segment.text = text.toList ∧ segment.isError = false ∧
      (∀ position, segment.item? position = some (.ok ⟨token, text, position⟩)) ∧
      ∀ policy rest, (∀ char ∈ rest.head?, Unicode.isWhiteSpace char = true) →
        segment.Lawful policy rest := by
  cases spells with
  | @word text begun parts =>
    refine ⟨.word text.toList, rfl, rfl, ?_, ?_⟩
    · intro position
      simp [Segment.item?, Lexeme.ofWord_eq]
    · intro policy rest blank
      exact ⟨begun, LongestRun.before_blank parts Lexeme.isWordPart_of_isWhiteSpace blank⟩
  | @number text value parts spelled =>
    have wellFormed : Lexeme.WellFormed text.toList := by
      rw [← Lexeme.isSome_ofLiteral?_iff parts, spelled]
      rfl
    have nonempty : text.toList ≠ [] := by
      obtain ⟨⟨char, member, -⟩, -⟩ := wellFormed
      exact List.ne_nil_of_mem member
    refine ⟨.number text.toList value, rfl, rfl, ?_, ?_⟩
    · intro position
      simp [Segment.item?]
    · intro policy rest blank
      exact ⟨nonempty, LongestRun.before_blank parts Lexeme.isNumberPart_of_isWhiteSpace blank, wellFormed,
        spelled⟩
  | @mark char token member =>
    refine ⟨.mark char token, by simp [Segment.text], rfl, fun _ => rfl, ?_⟩
    intro policy rest blank
    exact member

theorem Segment.Lawful.spells {policy : Policy} {segment : Segment} {rest : List Char}
    (lawful : segment.Lawful policy rest) {position : Position} {lexeme : Lexeme}
    (yielded : segment.item? position = some (.ok lexeme)) :
    Spells lexeme.text lexeme.token ∧ lexeme.text.toList = segment.text := by
  cases segment with
  | blank | comment | skipped | malformed | stray => simp [item?] at yielded
  | word run =>
    obtain rfl := Except.ok.inj (Option.some.inj yielded)
    rw [← Lexeme.ofWord_eq]
    exact ⟨.word (by simpa using lawful.1) (by simpa using lawful.2.kept), by simp [text]⟩
  | number run value =>
    obtain rfl := Except.ok.inj (Option.some.inj yielded)
    obtain ⟨-, longest, -, spelled⟩ := lawful
    exact ⟨.number (by simpa using longest.kept) (by simpa using spelled), by simp [text]⟩
  | mark char token =>
    obtain rfl := Except.ok.inj (Option.some.inj yielded)
    exact ⟨.mark lawful, by simp [text]⟩

/-- A text of lexemes in which white space stands behind every one but the last. -/
inductive Spaced : List Char → List Spelling → Prop where
  | nil : Spaced [] []
  | blank {char : Char} {text : List Char} {spellings : List Spelling} :
      Unicode.isWhiteSpace char = true → Spaced text spellings → Spaced (char :: text) spellings
  | lexeme {text : List Char} {spellings : List Spelling} (spelling : Spelling) :
      (∀ char ∈ text.head?, Unicode.isWhiteSpace char = true) → Spaced text spellings →
      Spaced (spelling.text.toList ++ text) (spelling :: spellings)

namespace Spaced

theorem append {first second : List Char} {before behind : List Spelling}
    (spaced : Spaced first before)
    (blank : ∀ char ∈ second.head?, Unicode.isWhiteSpace char = true)
    (further : Spaced second behind) : Spaced (first ++ second) (before ++ behind) := by
  induction spaced with
  | nil => exact further
  | blank white _ ih => exact .blank white ih
  | @lexeme text spellings spelling ends _ ih =>
    rw [List.append_assoc]
    refine .lexeme spelling ?_ ih
    cases text with
    | nil => exact blank
    | cons => exact ends

theorem intercalate {α : Type} {separator : Char} (white : Unicode.isWhiteSpace separator = true)
    {text : α → String} {spellings : α → List Spelling}
    (each : ∀ part, Spaced (text part).toList (spellings part)) (parts : List α) :
    Spaced ((String.singleton separator).intercalate (parts.map text)).toList
      (parts.flatMap spellings) := by
  induction parts with
  | nil => exact .nil
  | cons part rest ih =>
    cases rest with
    | nil => simpa using each part
    | cons next rest =>
      have joined := (each part).append (by simpa using white) (.blank white ih)
      simpa using joined

theorem of_spellings (spellings : List Spelling) :
    Spaced (" ".intercalate (spellings.map Spelling.text)).toList spellings := by
  have alone (spelling : Spelling) : Spaced spelling.text.toList [spelling] := by
    have single := Spaced.lexeme spelling (by simp) .nil
    rwa [List.append_nil] at single
  have white : Unicode.isWhiteSpace ' ' = true := by decide +kernel
  simpa using intercalate white alone spellings

theorem exists_segments {text : List Char} {spellings : List Spelling}
    (spaced : Spaced text spellings) (policy : Policy) :
    ∃ segments, Cut.textOf segments = text ∧ Cut.Fits policy [] segments ∧
      ∀ position, ∃ (lexemes : List Lexeme) (ending : Position),
        Cut.itemsFrom position segments = lexemes.map .ok ++ [.ok (.ending ending)] ∧
        lexemes.map Lexeme.text = spellings.map Spelling.text ∧
        lexemes.map Lexeme.token = spellings.map Spelling.token := by
  -- A blank and a lexeme are one segment each.
  induction spaced with
  | nil => exact ⟨[], rfl, rfl, fun position => ⟨[], position, rfl, rfl, rfl⟩⟩
  | @blank char text spellings white _ ih =>
    obtain ⟨segments, rfl, fits, items⟩ := ih
    exact ⟨.blank char :: segments, rfl, ⟨white, fits⟩, fun position => items _⟩
  | @lexeme text spellings spelling ends _ ih =>
    obtain ⟨segments, rfl, fits, items⟩ := ih
    obtain ⟨segment, same, sound, yields, lawful⟩ := spelling.spells.exists_segment
    refine ⟨segment :: segments, ?_, ⟨?_, ?_⟩, ?_⟩
    · simp [Cut.textOf, same]
    · rw [List.append_nil]
      exact lawful policy _ ends
    · rw [sound]
      exact fits
    · intro position
      obtain ⟨lexemes, ending, items, texts, tokens⟩ := items (position.after segment.text)
      refine ⟨⟨spelling.token, spelling.text, position⟩ :: lexemes, ending, ?_, ?_, ?_⟩
      · rw [Cut.itemsFrom, yields, items]
        rfl
      · rw [List.map_cons, texts, List.map_cons]
      · rw [List.map_cons, tokens, List.map_cons]

end Spaced

namespace Source

theorem lexemes_of_spaced {source : String} {spellings : List Spelling}
    (spaced : Spaced source.toList spellings) (policy : Policy) :
    (∃ lexeme, last policy source = .ok lexeme) ∧
      (lexemes policy source).map Lexeme.text = spellings.map Spelling.text ∧
      (lexemes policy source).map Lexeme.token = spellings.map Spelling.token := by
  obtain ⟨segments, text, fits, items⟩ := spaced.exists_segments policy
  obtain ⟨read, ending, items, same⟩ := items .start
  have whole : Cut.text ⟨segments, []⟩ = source.toList := by
    rw [Cut.text, List.append_nil, text]
  have scanned := Cut.items_eq whole fits
  rw [items_eq, Cut.items, items] at scanned
  obtain ⟨rfl, ended⟩ := Item.append_inj scanned
  exact ⟨⟨_, ended.symm⟩, same⟩

end Source

end Kaleidoscope
