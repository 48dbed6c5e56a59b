import Kaleidoscope.Lexeme.Gap
import Kaleidoscope.Number.Layout
import Mathlib.Data.List.TakeWhile

/-! Numbers in plain text.

The plain text of a finite number is a literal behind a sign, and this literal spells the number without
the sign.

Main statement: numbers with the same plain text are the same.
-/

set_option autoImplicit false

namespace Kaleidoscope

namespace Binary64

theorem digitsValue_eq (digits : List Char) : digitsValue digits = Nat.ofDigitChars 10 digits 0 :=
  Nat.ofDigitChars_eq_foldl.symm

theorem digitsValue_toDigits (value : Nat) : digitsValue (Nat.toDigits 10 value) = value := by
  rw [digitsValue_eq, Nat.ofDigitChars_ten_toDigits]

theorem digitsValue_zeros_append (count : Nat) (digits : List Char) :
    digitsValue (List.replicate count '0' ++ digits) = digitsValue digits := by
  rw [digitsValue_eq, digitsValue_eq, Nat.ofDigitChars_append, Nat.ofDigitChars_replicate_zero,
    Nat.mul_zero]

theorem digitsValue_append_zeros (digits : List Char) (count : Nat) :
    digitsValue (digits ++ List.replicate count '0') = digitsValue digits * Nat.pow 10 count := by
  rw [digitsValue_eq, digitsValue_eq, Nat.ofDigitChars_append, Nat.ofDigitChars_replicate_zero,
    Nat.mul_comm]
  rfl

theorem ofLiteral?_digits {digits : List Char} (only : ∀ char ∈ digits, char.isDigit = true)
    (nonempty : digits ≠ []) :
    ofLiteral? digits = some (ofQuotient (digitsValue digits) 1) := by
  have taken := List.takeWhile_eq_self_iff.mpr only
  have left := List.dropWhile_eq_nil_iff.mpr only
  simp [ofLiteral?, taken, left, nonempty]

theorem ofLiteral?_point {whole places : List Char}
    (digits : ∀ char ∈ whole ++ places, char.isDigit = true) (nonempty : whole ++ places ≠ []) :
    ofLiteral? (whole ++ '.' :: places) =
      some (ofQuotient (digitsValue (whole ++ places)) (Nat.pow 10 places.length)) := by
  obtain ⟨before, behind⟩ := List.forall_mem_append.mp digits
  have taken : (whole ++ '.' :: places).takeWhile Char.isDigit = whole := by
    rw [List.takeWhile_append_of_pos before, List.takeWhile_cons_of_neg (by decide), List.append_nil]
  have left : (whole ++ '.' :: places).dropWhile Char.isDigit = '.' :: places := by
    rw [List.dropWhile_append_of_pos before, List.dropWhile_cons_of_neg (by decide)]
  have all : places.all Char.isDigit = true := List.all_eq_true.mpr behind
  simp only [ofLiteral?, taken, left, all]
  rw [if_pos (by simpa using nonempty)]

end Binary64

namespace Digits

open Binary64 (ofLiteral? digitsValue ofQuotient)
open Number (Decimal)

variable {digits : List Char}

theorem positional_integer (nonempty : digits ≠ []) (count : Nat) :
    positional ⟨digits, digits.length + (count : Int)⟩ = digits ++ List.replicate count '0' := by
  have positive := List.length_pos_iff.mpr nonempty
  have right : ¬((digits.length : Int) + count ≤ 0) := by omega
  have beyond : (digits.length : Int) ≤ digits.length + count := by omega
  have filled : ((digits.length : Int) + count - digits.length).toNat = count := by omega
  simp only [positional, isInteger, zeros, right, beyond, filled, decide_true, if_true, if_false]

theorem positional_fraction {places : Nat} (few : digits.length ≤ places) :
    positional ⟨digits, digits.length + -(places : Int)⟩ =
      ['0'] ++ '.' :: (List.replicate (places - digits.length) '0' ++ digits) := by
  have left : (digits.length : Int) + -places ≤ 0 := by omega
  have filled : (-((digits.length : Int) + -places)).toNat = places - digits.length := by omega
  simp only [positional, zeros, left, filled, if_true]
  simp

theorem positional_split {places : Nat} (positive : 0 < places) (many : places < digits.length) :
    positional ⟨digits, digits.length + -(places : Int)⟩ =
      digits.take (digits.length - places) ++ '.' :: digits.drop (digits.length - places) := by
  have right : ¬((digits.length : Int) + -places ≤ 0) := by omega
  have within : ¬((digits.length : Int) ≤ digits.length + -places) := by omega
  have point : ((digits.length : Int) + -places).toNat = digits.length - places := by omega
  simp only [positional, isInteger, right, within, point, decide_false, Bool.false_eq_true, if_false]
  simp

/-- Wherever the point is, the number that is read is the one that the digits and the point stand for. -/
theorem ofLiteral?_positional (only : ∀ char ∈ digits, char.isDigit = true) (nonempty : digits ≠ [])
    (exponent : Int) :
    ∃ value, ofLiteral? (positional ⟨digits, digits.length + exponent⟩) = some value ∧
      value.negative = false ∧ value.magnitude = Decimal.magnitude ⟨digitsValue digits, exponent⟩ := by
  have zeros (count : Nat) : ∀ char ∈ List.replicate count '0', char.isDigit = true :=
    fun _ member => List.eq_of_mem_replicate member ▸ rfl
  by_cases whole : 0 ≤ exponent
  · obtain ⟨count, rfl⟩ := Int.eq_ofNat_of_zero_le whole
    refine ⟨ofQuotient (digitsValue digits * Nat.pow 10 count) 1, ?_, rfl, rfl⟩
    have all := List.forall_mem_append.mpr ⟨only, zeros count⟩
    rw [positional_integer nonempty, Binary64.ofLiteral?_digits all (by simp [nonempty]),
      Binary64.digitsValue_append_zeros]
  obtain ⟨places, rfl⟩ : ∃ places : Nat, exponent = -(places : Int) := ⟨exponent.natAbs, by omega⟩
  have positive : 0 < places := by omega
  refine ⟨ofQuotient (digitsValue digits) (Nat.pow 10 places), ?_, rfl,
    (Decimal.magnitude_neg _ positive).symm⟩
  by_cases few : digits.length ≤ places
  · have leading : ['0'] ++ (List.replicate (places - digits.length) '0' ++ digits) =
        List.replicate (places - digits.length + 1) '0' ++ digits := by
      rw [List.replicate_succ]
      rfl
    have all := List.forall_mem_append.mpr ⟨zeros (places - digits.length + 1), only⟩
    have width : (List.replicate (places - digits.length) '0' ++ digits).length = places := by
      simp [few]
    rw [positional_fraction few, Binary64.ofLiteral?_point (leading ▸ all) (by simp), leading, width,
      Binary64.digitsValue_zeros_append]
  · have parted := List.take_append_drop (digits.length - places) digits
    have width : (digits.drop (digits.length - places)).length = places := by
      rw [List.length_drop]
      omega
    rw [positional_split positive (by omega), Binary64.ofLiteral?_point (parted.symm ▸ only)
      (parted.symm ▸ nonempty), parted, width]

theorem ofLiteral?_decimal (decimal : Decimal) :
    ∃ value, ofLiteral? (positional ⟨Nat.toDigits 10 decimal.digits,
      (Nat.toDigits 10 decimal.digits).length + decimal.exponent⟩) = some value ∧ value.negative = false ∧
      value.magnitude = decimal.magnitude := by
  have only : ∀ char ∈ Nat.toDigits 10 decimal.digits, char.isDigit = true :=
    fun _ => Nat.isDigit_of_mem_toDigits (by decide) (by decide)
  have read := ofLiteral?_positional only Nat.toDigits_ne_nil decimal.exponent
  rwa [Binary64.digitsValue_toDigits] at read

theorem ofLiteral?_ofMagnitude {magnitude : Nat} (valid : magnitude ≤ Number.infinity) :
    ∃ value, ofLiteral? (positional (ofMagnitude magnitude)) = some value ∧ value.negative = false ∧
      value.magnitude = magnitude := by
  obtain ⟨value, spelled, positive, same⟩ := ofLiteral?_decimal (Number.shortest magnitude)
  exact ⟨value, spelled, positive, same.trans (Number.magnitude_shortest valid)⟩

theorem isNumberPart_of_mem_positional {magnitude : Nat} :
    ∀ char ∈ positional (ofMagnitude magnitude), Lexeme.isNumberPart char = true := by
  have only : ∀ char ∈ (ofMagnitude magnitude).digits, char.isDigit = true :=
    fun _ => Nat.isDigit_of_mem_toDigits (by decide) (by decide)
  intro char member
  have parts : char = '0' ∨ char = '.' ∨ char ∈ (ofMagnitude magnitude).digits := by
    unfold positional zeros at member
    split at member
    · simp only [List.mem_append, List.mem_cons, List.mem_replicate] at member
      grind
    · split at member
      · simp only [List.mem_append, List.mem_replicate] at member
        grind
      · simp only [List.mem_append, List.mem_cons] at member
        grind [List.mem_of_mem_take, List.mem_of_mem_drop]
  rcases parts with rfl | rfl | member
  · decide
  · decide
  · simp [Lexeme.isNumberPart, only char member]

end Digits

namespace Binary64

def plainDigits (magnitude : Nat) : List Char :=
  if magnitude = Number.infinity then ['i', 'n', 'f']
  else if magnitude = 0 then ['0']
  else (Digits.ofMagnitude magnitude).positional

theorem toList_plainText {number : Binary64} (sound : number.isNaN = false) :
    number.plainText.toList = (if number.negative then ['-'] else []) ++ plainDigits number.magnitude := by
  simp only [plainText, write, sound, plainDigits, Bool.false_eq_true, if_false]
  split
  · simp
  · split <;> simp

theorem plainDigits_cases {magnitude : Nat} (valid : magnitude ≤ Number.infinity) :
    (magnitude = Number.infinity ∧ plainDigits magnitude = ['i', 'n', 'f']) ∨
      (∀ char ∈ plainDigits magnitude, Lexeme.isNumberPart char = true) ∧
        (ofLiteral? (plainDigits magnitude)).map Binary64.magnitude = some magnitude := by
  unfold plainDigits
  split
  · next infinite => exact .inl ⟨infinite, rfl⟩
  · split
    · next zero =>
      subst zero
      exact .inr ⟨List.forall_mem_singleton.mpr rfl, by decide +kernel⟩
    · obtain ⟨value, spelled, -, same⟩ := Digits.ofLiteral?_ofMagnitude valid
      exact .inr ⟨Digits.isNumberPart_of_mem_positional, by rw [spelled, Option.map_some, same]⟩

theorem magnitude_le_of_isNaN {number : Binary64} (sound : number.isNaN = false) :
    number.magnitude ≤ Number.infinity :=
  Nat.not_lt.mp (of_decide_eq_false sound)

theorem plainDigits_injective {first second : Nat} (left : first ≤ Number.infinity)
    (right : second ≤ Number.infinity) (same : plainDigits first = plainDigits second) :
    first = second := by
  have notPart : Lexeme.isNumberPart 'i' = false := by decide
  rcases plainDigits_cases left with ⟨infinite, text⟩ | ⟨parts, reads⟩
  · rcases plainDigits_cases right with ⟨infinite', -⟩ | ⟨parts', -⟩
    · rw [infinite, infinite']
    · have part := parts' 'i' (by simp [← same, text])
      simp [notPart] at part
  · rcases plainDigits_cases right with ⟨-, text'⟩ | ⟨-, reads'⟩
    · have part := parts 'i' (by simp [same, text'])
      simp [notPart] at part
    · rw [same, reads'] at reads
      exact (Option.some.inj reads).symm

theorem of_mem_plainDigits {magnitude : Nat} (valid : magnitude ≤ Number.infinity) {char : Char}
    (member : char ∈ plainDigits magnitude) :
    Lexeme.isNumberPart char = true ∨ char ∈ ['i', 'n', 'f'] := by
  rcases plainDigits_cases valid with ⟨-, text⟩ | ⟨parts, -⟩
  · exact .inr (text ▸ member)
  · exact .inl (parts char member)

theorem of_mem_plainText {number : Binary64} (sound : number.isNaN = false) {char : Char}
    (member : char ∈ number.plainText.toList) :
    Lexeme.isNumberPart char = true ∨ char ∈ ['-', 'i', 'n', 'f'] := by
  rw [toList_plainText sound] at member
  rcases List.mem_append.mp member with sign | member
  · split at sign
    · simp [List.mem_singleton.mp sign]
    · simp at sign
  · exact (of_mem_plainDigits (magnitude_le_of_isNaN sound) member).imp_right (List.mem_cons_of_mem _)

-- Nothing but the sign is a minus.
theorem head?_plainDigits {magnitude : Nat} (valid : magnitude ≤ Number.infinity) :
    (plainDigits magnitude).head? ≠ some '-' := by
  intro first
  have parts := of_mem_plainDigits valid (List.mem_of_mem_head? first)
  revert parts
  decide

theorem plainText_injective {first second : Binary64} (left : first.isNaN = false)
    (right : second.isNaN = false) (same : first.plainText = second.plainText) : first = second := by
  have valid := magnitude_le_of_isNaN left
  have valid' := magnitude_le_of_isNaN right
  have texts := congrArg String.toList same
  rw [toList_plainText left, toList_plainText right] at texts
  obtain ⟨negative, magnitude, bound⟩ := first
  obtain ⟨negative', magnitude', bound'⟩ := second
  cases negative <;> cases negative'
  · exact Binary64.ext rfl (plainDigits_injective valid valid' (by simpa using texts))
  · exact absurd (congrArg List.head? texts) (by simpa using head?_plainDigits valid)
  · exact absurd (congrArg List.head? texts).symm (by simpa using head?_plainDigits valid')
  · exact Binary64.ext rfl (plainDigits_injective valid valid' (by simpa using texts))

end Binary64

end Kaleidoscope
