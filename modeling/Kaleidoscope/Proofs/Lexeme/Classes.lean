import Kaleidoscope.Lexeme.Reading
import Mathlib.Data.List.TakeWhile

/-! The characters that lexemes begin with, and the literals that spell numbers.

Main statements: no character begins two kinds of things, and a literal spells a number if it has a
digit and no second point.
-/

set_option autoImplicit false

namespace Kaleidoscope.Lexeme

/-- The single characters that are lexemes. -/
def marks : List (Char × Token) :=
  [('+', .operator .plus), ('-', .operator .minus), ('*', .operator .times),
    ('/', .operator .divide), ('(', .openParen), (')', .closeParen), (',', .comma), ('=', .define),
    ('?', .declare)]

/-- The words that are no names. -/
def reserved : List (String × Token) :=
  [("def", .define), ("if", .ifWord), ("then", .thenWord), ("else", .elseWord)]

theorem mem_marks_iff {char : Char} {token : Token} :
    (char, token) ∈ marks ↔ Token.ofMark? char = some token := by
  constructor
  · intro member
    simp only [marks, List.mem_cons, Prod.mk.injEq, List.not_mem_nil, or_false] at member
    rcases member with ⟨rfl, rfl⟩ | ⟨rfl, rfl⟩ | ⟨rfl, rfl⟩ | ⟨rfl, rfl⟩ | ⟨rfl, rfl⟩ | ⟨rfl, rfl⟩ |
      ⟨rfl, rfl⟩ | ⟨rfl, rfl⟩ | ⟨rfl, rfl⟩ <;> rfl
  · intro spelled
    unfold Token.ofMark? at spelled
    split at spelled
    case h_6 =>
      obtain ⟨op, symbol, rfl⟩ := Option.map_eq_some_iff.mp spelled
      unfold Operator.ofSymbol? at symbol
      split at symbol <;> simp_all [marks]
    all_goals simp_all [marks]

theorem ofWord_eq (word : String) :
    Token.ofWord word = (reserved.lookup word).getD (.identifier word) := by
  by_cases isReserved : word ∈ reserved.map Prod.fst
  · simp only [reserved, List.map_cons, List.map_nil, List.mem_cons, List.not_mem_nil, or_false]
      at isReserved
    rcases isReserved with rfl | rfl | rfl | rfl <;> rfl
  · have missing : reserved.lookup word = none := by
      rw [List.lookup_eq_none_iff]
      intro pair member
      rw [bne_iff_ne]
      rintro rfl
      exact isReserved (List.mem_map_of_mem member)
    simp only [reserved, List.map_cons, List.map_nil, List.mem_cons, List.not_mem_nil, or_false,
      not_or] at isReserved
    simp [Token.ofWord, missing, isReserved]

/-- A character that begins nothing. -/
structure Unknown (char : Char) : Prop where
  noBlank : Unicode.isWhiteSpace char = false
  noComment : char ≠ '#'
  noWord : isWordStart char = false
  noNumber : isNumberPart char = false
  noMark : ∀ token, (char, token) ∉ marks

theorem Unknown.ofMark?_eq {char : Char} (unknown : Unknown char) : Token.ofMark? char = none := by
  rw [Option.eq_none_iff_forall_ne_some]
  intro token spelled
  exact unknown.noMark token (mem_marks_iff.mpr spelled)

def numberParts : Unicode.Ranges := [(0x2E, 0x2E), (0x30, 0x39)]

theorem contains_numberParts {char : Char} (part : isNumberPart char = true) :
    numberParts.contains char.toNat = true := by
  unfold isNumberPart Char.isDigit at part
  simp only [Bool.or_eq_true, Bool.and_eq_true, decide_eq_true_eq, UInt32.le_iff_toNat_le] at part
  unfold numberParts Unicode.Ranges.contains
  rcases part with digit | rfl
  · have low : 48 ≤ char.toNat := digit.1
    have high : char.toNat ≤ 57 := digit.2
    simp only [Unicode.Ranges.contains]
    grind
  · decide

theorem isWordStart_of_isNumberPart {char : Char} (part : isNumberPart char = true) :
    isWordStart char = false := by
  have letters : Unicode.alphabetic.contains char.toNat = false :=
    Unicode.Ranges.contains_eq_false_of_apart (by decide +kernel : numberParts.apart Unicode.alphabetic)
      (contains_numberParts part)
  have line : char ≠ '_' := by
    rintro rfl
    simp [isNumberPart] at part
  simp [isWordStart, Unicode.isAlphabetic, letters, line]

theorem isWhiteSpace_of_isNumberPart {char : Char} (part : isNumberPart char = true) :
    Unicode.isWhiteSpace char = false :=
  Unicode.Ranges.contains_eq_false_of_apart (by decide +kernel : numberParts.apart Unicode.whiteSpace)
    (contains_numberParts part)

theorem isWhiteSpace_of_isWordStart {char : Char} (first : isWordStart char = true) :
    Unicode.isWhiteSpace char = false := by
  cases white : Unicode.isWhiteSpace char with
  | false => rfl
  | true =>
    have noLetter := Unicode.isAlphabetic_eq_false_of_isWhiteSpace white
    obtain rfl : char = '_' := by simpa [isWordStart, noLetter] using first
    revert white
    decide +kernel

/-- Digits and points of which some are digits and at most one is a point. -/
def WellFormed (literal : List Char) : Prop :=
  (∃ char ∈ literal, char.isDigit) ∧ literal.count '.' ≤ 1

theorem mark_classes : ∀ pair ∈ marks, Unicode.isWhiteSpace pair.1 = false ∧ pair.1 ≠ '#' ∧
    isWordStart pair.1 = false ∧ isNumberPart pair.1 = false := by
  decide +kernel

theorem eq_point_of_not_isDigit {char : Char} (part : isNumberPart char = true)
    (other : ¬char.isDigit = true) : char = '.' := by
  simpa [isNumberPart, other] using part

theorem count_point_eq_zero {digits : List Char} (only : ∀ char ∈ digits, char.isDigit = true) :
    digits.count '.' = 0 := by
  rw [List.count_eq_zero]
  intro member
  exact absurd (only _ member) (by decide)

theorem all_isDigit_iff {places : List Char} (parts : ∀ char ∈ places, isNumberPart char = true) :
    places.all Char.isDigit = true ↔ places.count '.' = 0 := by
  rw [List.all_eq_true]
  refine ⟨count_point_eq_zero, ?_⟩
  intro none char member
  by_contra other
  obtain rfl := eq_point_of_not_isDigit (parts char member) other
  exact List.count_eq_zero.mp none member

theorem wellFormed_digits_iff {digits : List Char} (only : ∀ char ∈ digits, char.isDigit = true) :
    WellFormed digits ↔ digits ≠ [] := by
  constructor
  · rintro ⟨⟨char, member, -⟩, -⟩
    exact List.ne_nil_of_mem member
  · intro nonempty
    obtain ⟨char, rest, rfl⟩ := List.exists_cons_of_ne_nil nonempty
    refine ⟨⟨char, by simp, only char (by simp)⟩, ?_⟩
    rw [count_point_eq_zero only]
    exact Nat.zero_le 1

theorem wellFormed_point_iff {whole places : List Char}
    (digits : ∀ char ∈ whole, char.isDigit = true)
    (parts : ∀ char ∈ places, isNumberPart char = true) :
    WellFormed (whole ++ '.' :: places) ↔ places.all Char.isDigit = true ∧ whole ++ places ≠ [] := by
  have points : (whole ++ '.' :: places).count '.' = places.count '.' + 1 := by
    rw [List.count_append, count_point_eq_zero digits, List.count_cons_self, Nat.zero_add]
  unfold WellFormed
  rw [points, all_isDigit_iff parts]
  constructor
  · rintro ⟨⟨char, member, digit⟩, few⟩
    refine ⟨by omega, ?_⟩
    rcases List.mem_append.mp member with member | member
    · exact List.append_ne_nil_of_left_ne_nil (List.ne_nil_of_mem member) places
    · rcases List.mem_cons.mp member with rfl | member
      · exact absurd digit (by decide)
      · exact List.append_ne_nil_of_right_ne_nil whole (List.ne_nil_of_mem member)
  · rintro ⟨none, nonempty⟩
    refine ⟨?_, by omega⟩
    have only := List.all_eq_true.mp ((all_isDigit_iff parts).mpr none)
    obtain ⟨char, member⟩ := List.exists_mem_of_ne_nil _ nonempty
    rcases List.mem_append.mp member with member | member
    · exact ⟨char, by simp [member], digits char member⟩
    · exact ⟨char, by simp [member], only char member⟩

theorem isSome_ofLiteral?_iff {literal : List Char}
    (parts : ∀ char ∈ literal, isNumberPart char = true) :
    (Binary64.ofLiteral? literal).isSome ↔ WellFormed literal := by
  have digits : ∀ char ∈ literal.takeWhile Char.isDigit, char.isDigit = true :=
    fun _ => List.mem_takeWhile_imp
  have stopped := List.head?_dropWhile_not Char.isDigit literal
  have parted := List.takeWhile_append_dropWhile (p := Char.isDigit) (l := literal)
  unfold Binary64.ofLiteral?
  cases rest : literal.dropWhile Char.isDigit with
  | nil =>
    rw [rest, List.append_nil] at parted
    rw [parted] at digits ⊢
    rw [wellFormed_digits_iff digits]
    cases literal <;> simp
  | cons point places =>
    rw [rest] at parted stopped
    obtain rfl : point = '.' := by
      apply eq_point_of_not_isDigit (parts point (by rw [← parted]; simp))
      simpa using stopped
    have behind : ∀ char ∈ places, isNumberPart char = true :=
      fun char member => parts char (by rw [← parted]; simp [member])
    have spelled := wellFormed_point_iff digits behind
    rw [parted] at spelled
    rw [spelled]
    simp [Option.isSome_iff_exists]

end Kaleidoscope.Lexeme
